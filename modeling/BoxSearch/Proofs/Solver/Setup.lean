import BoxSearch.Proofs.Ensemble.Generation
import BoxSearch.Proofs.Procedure
import BoxSearch.Proofs.Sampling.Table
import BoxSearch.Proofs.Solver.Rescaling

/-!
# Setting up, line by line

Making a solver ready takes several steps: arguments are looked at, a generator is seeded, points
are drawn, the members of an ensemble are built one by one, and then field after field is written.
A start population or a start point is looked at and then written.

Here each of these operations is written as it is carried out (`preparing`, `populating`,
`guessing`).  The order of the lines is what makes a refused operation harmless: everything that
may be refused comes before the first line that writes.
-/

namespace BoxSearch

open Procedure

variable {α : Type} [Scalar α]

theorem Size.eq_of_checkTable_error {rows columns : Nat} {e : SolverError}
    (h : checkTable rows columns = .error e) : e = .fault .tooLarge := by
  unfold checkTable checkList at h
  split at h
  · cases h
    rfl
  · split at h <;> cases h
    rfl

/-! ## Differential evolution -/

namespace Evolution

variable (s : Evolution α)

/-- What is written at the start of a run. -/
def beginning (box : Option (Box α)) (size : Nat) (population : Population α) :
    Procedure (Evolution α) Unit := do
  modify ({ · with box })
  modify fun s => { s with state := .empty s.dim }
  modify ({ · with state.bestSolution := population.row 0 })
  modify ({ · with state.energies := List.replicate size Double.infinity })
  modify ({ · with state.population := population })
  modify ({ · with ready := true })
  modify ({ · with evaluated := false })
  modify fun s => { s with token := s.token.reset }
  modify fun s => { s with watch := s.watch.map Watch.reset }

theorem perform_beginning (box : Option (Box α)) {size : Nat} {population : Population α}
    (count : population.rows.length = size) :
    (beginning box size population).perform s = (.ok (), { s with
      box
      state := .start population
      ready := true
      evaluated := false
      token := .fresh
      watch := s.watch.map Watch.reset }) := by
  subst count
  rfl

/-- Making ready: the generator is seeded when nothing can be refused any more. -/
def preparing (box : Option (Box α)) (size : Nat) (seed : Seed) :
    Procedure (Evolution α) Unit := do
  let s ← get
  require (s.dim ≠ 0) (.configuration .zeroDimension)
  require (size ≠ 0) (.configuration .zeroPopulation)
  checkBox s.dim box
  modify ({ · with generator := seed.generator })
  Size.checkTable size s.dim
  let s ← get
  let drawn := s.init.draw size (drawBox s.dim box) s.generator
  modify ({ · with generator := drawn.2 })
  beginning box size drawn.1

theorem performs_preparing (box : Option (Box α)) (size : Nat) (seed : Seed) :
    (preparing box size seed).Performs s
      ((s.prepare box size seed).result, (s.prepare box size seed).after) := by
  unfold preparing prepare checkStart Performs
  rw [perform_get]
  by_cases dim : s.dim = 0
  · rw [perform_require_fail (not_ne_iff.2 dim), if_pos dim]
    exact ⟨rfl, fun _ => rfl⟩
  by_cases members : size = 0
  · rw [perform_require dim, perform_require_fail (not_ne_iff.2 members), if_neg dim,
      if_pos members]
    exact ⟨rfl, fun _ => rfl⟩
  rw [perform_require dim, perform_require members, if_neg dim, if_neg members]
  cases checkBox s.dim box with
  | error e => exact ⟨rfl, fun _ => rfl⟩
  | ok _ =>
      rw [perform_ok, perform_modify]
      -- the generator is seeded by now, and the table may still be too large
      cases room : Size.checkTable size s.dim with
      | error e =>
          have fault := Size.eq_of_checkTable_error room
          exact ⟨rfl, fun returned => absurd (congrArg Except.error fault) (returned .tooLarge)⟩
      | ok _ =>
          obtain ⟨-, count⟩ := s.init.table_draw size (drawBox s.dim box) seed.generator
          rw [perform_ok, perform_get, perform_modify, perform_beginning _ _ count]
          exact ⟨rfl, fun _ => rfl⟩

theorem after_prepare_error {s : Evolution α} {box : Option (Box α)} {size : Nat}
    {seed : Seed} {e : SolverError}
    (refused : (s.prepare box size seed).result = .error e) :
    (s.prepare box size seed).after = s := by
  unfold prepare at refused ⊢
  cases hc : checkStart s.dim box size with
  | error e => rfl
  | ok _ =>
      rw [hc] at refused
      cases refused

/-- Replacing the drawn population. -/
def populating (p : Population α) : Procedure (Evolution α) Unit := do
  let s ← get
  s.checkUnstarted "initial population"
  require (p.width = s.dim) (.dimensionMismatch "initial population" s.dim p.width)
  require (¬p.rows.isEmpty) (.configuration .emptyStart)
  let rows := p.rows.map s.clip
  modify ({ · with state.bestSolution := rows.headD [] })
  modify ({ · with state.population := ⟨p.width, rows⟩ })
  modify ({ · with state.energies := List.replicate rows.length Double.infinity })

theorem perform_populating (p : Population α) :
    (populating p).perform s = settle s (s.setInitialPopulation p) := by
  unfold populating setInitialPopulation
  rw [perform_get]
  cases s.checkUnstarted "initial population" with
  | error e => rfl
  | ok _ =>
      rw [perform_ok]
      by_cases width : p.width = s.dim
      · by_cases empty : p.rows.isEmpty = true
        · rw [perform_require width, perform_require_fail (not_not.2 empty),
            if_neg (not_not.2 width), if_pos empty]
          rfl
        · rw [perform_require width, perform_require empty, if_neg (not_not.2 width), if_neg empty]
          rfl
      · rw [perform_require_fail width, if_pos width]
        rfl

/-- Replacing the first member of the drawn population. -/
def guessing (x : Point α) : Procedure (Evolution α) Unit := do
  let s ← get
  s.checkUnstarted "initial guess"
  require (x.length = s.dim) (.dimensionMismatch "initial guess" s.dim x.length)
  let x := s.clip x
  require (¬s.state.population.rows.isEmpty) (.fault (.indexOutOfRange 0 0))
  require (s.state.population.width = s.dim)
    (.fault (.rowLength s.state.population.width s.dim))
  modify fun s => { s with state.population := s.state.population.setRow 0 x }
  modify ({ · with state.bestSolution := x })

theorem perform_guessing (x : Point α) :
    (guessing x).perform s = settle s (s.setInitialGuess x) := by
  unfold guessing setInitialGuess
  rw [perform_get]
  cases s.checkUnstarted "initial guess" with
  | error e => rfl
  | ok _ =>
      rw [perform_ok]
      by_cases length : x.length = s.dim
      · rw [perform_require length, if_neg (not_not.2 length)]
        by_cases empty : s.state.population.rows.isEmpty = true
        · rw [perform_require_fail (not_not.2 empty), if_pos empty]
          rfl
        rw [perform_require empty, if_neg empty]
        by_cases width : s.state.population.width = s.dim
        · rw [perform_require width, if_neg (not_not.2 width)]
          rfl
        · rw [perform_require_fail width, if_pos width]
          rfl
      · rw [perform_require_fail length, if_pos length]
        rfl

end Evolution

/-! ## Compass search -/

namespace Compass

variable (s : Compass α)

/-- What is written at the start of a run. -/
def beginning (box : Option (Box α)) (drawn : Box α) (start : Population α) :
    Procedure (Compass α) Unit := do
  modify fun s => { s with steps := drawn.span.map (· * s.initialStep) }
  modify ({ · with box })
  modify fun s => { s with state := .empty s.dim }
  modify ({ · with state.bestSolution := start.row 0 })
  modify ({ · with state.population := start })
  modify ({ · with state.energies := [Double.infinity] })
  modify ({ · with ready := true })
  modify ({ · with evaluated := false })
  modify fun s => { s with token := s.token.reset }
  modify fun s => { s with watch := s.watch.map Watch.reset }

/-- Making ready: the generator is a thing of the operation, and is gone after it. -/
def preparing (box : Option (Box α)) (seed : Seed) : Procedure (Compass α) Unit := do
  let s ← get
  require (s.dim ≠ 0) (.configuration .zeroDimension)
  Evolution.checkBox s.dim box
  let drawn := Evolution.drawBox s.dim box
  beginning box drawn (Sampling.uniform 1 drawn seed.generator).1

theorem perform_preparing (box : Option (Box α)) (size : Nat) (seed : Seed) :
    (preparing box seed).perform s =
      ((s.prepare box size seed).result, (s.prepare box size seed).after) := by
  unfold preparing prepare
  rw [perform_get]
  by_cases dim : s.dim = 0
  · rw [perform_require_fail (not_ne_iff.2 dim), if_pos dim]
    rfl
  rw [perform_require dim, if_neg dim]
  cases Evolution.checkBox s.dim box with
  | error e => rfl
  | ok _ =>
      rw [perform_ok]
      rfl

theorem after_prepare_error {s : Compass α} {box : Option (Box α)} {size : Nat}
    {seed : Seed} {e : SolverError}
    (refused : (s.prepare box size seed).result = .error e) :
    (s.prepare box size seed).after = s := by
  unfold prepare at refused ⊢
  by_cases dim : s.dim = 0
  · rw [if_pos dim]
    rfl
  rw [if_neg dim] at refused ⊢
  cases hb : Evolution.checkBox s.dim box with
  | error e => rfl
  | ok _ =>
      rw [hb] at refused
      cases refused

/-- Replacing the start point. -/
def guessing (x : Point α) : Procedure (Compass α) Unit := do
  let s ← get
  require (s.ready = true ∧ s.evaluated = false) (.configuration .guessMoment)
  require (x.length = s.dim) (.dimensionMismatch "initial guess" s.dim x.length)
  let x := s.finish x
  require (¬s.state.population.rows.isEmpty) (.fault (.indexOutOfRange 0 0))
  require (s.state.population.width = s.dim)
    (.fault (.rowLength s.state.population.width s.dim))
  modify fun s => { s with state.population := s.state.population.setRow 0 x }
  modify ({ · with state.bestSolution := x })

theorem perform_guessing (x : Point α) :
    (guessing x).perform s = settle s (s.setInitialGuess x) := by
  unfold guessing setInitialGuess
  rw [perform_get]
  by_cases moment : s.ready = true ∧ s.evaluated = false
  · have allowed : ¬(!s.ready || s.evaluated) = true := by simp [moment]
    rw [perform_require moment, if_neg allowed]
    by_cases length : x.length = s.dim
    · rw [perform_require length, if_neg (not_not.2 length)]
      by_cases empty : s.state.population.rows.isEmpty = true
      · rw [perform_require_fail (not_not.2 empty), if_pos empty]
        rfl
      rw [perform_require empty, if_neg empty]
      by_cases width : s.state.population.width = s.dim
      · rw [perform_require width, if_neg (not_not.2 width)]
        rfl
      · rw [perform_require_fail width, if_pos width]
        rfl
    · rw [perform_require_fail length, if_pos length]
      rfl
  · have refused : (!s.ready || s.evaluated) = true := by
      by_contra h
      exact moment (by simpa using h)
    rw [perform_require_fail moment, if_pos refused]
    rfl

end Compass

/-! ## Ensembles -/

namespace Solver

variable {build : Builder α}

/-- An ensemble apart from what builds its members. -/
abbrev Staff (α : Type) [Scalar α] := Frame α × List (Solver α)

/-- Building the members one by one; `built` holds those before the `i`-th. -/
def building (build : Builder α) (seed : Seed) :
    Nat → List (Point α) → List (Solver α) → Procedure (Staff α) (List (Solver α))
  | _, [], built => pure built
  | i, start :: starts, built => do
    let m ← (build i start (seed.member i)).1
    let (f, _) ← get
    require (m.dim = f.dim) (.dimensionMismatch "ensemble member" f.dim m.dim)
    let m := match f.constraints with
      | some c => m.setConstraints c
      | none => m
    building build seed (i + 1) starts (built ++ [m])

/-- Building members writes nothing, whichever of them fails. -/
theorem perform_building (build : Builder α) (f : Frame α) (ms : List (Solver α))
    (seed : Seed) (i : Nat) (starts : List (Point α)) (built : List (Solver α)) :
    (building build seed i starts built).perform (f, ms) =
      ((buildMembers f build seed i starts).1.map (built ++ ·), (f, ms)) := by
  induction starts generalizing i built with
  | nil =>
      rw [buildMembers, Except.map, List.append_nil]
      rfl
  | cons start starts ih =>
      rw [building, buildMembers]
      rcases build i start (seed.member i) with ⟨e | m, events⟩
      · rfl
      · rw [perform_ok, perform_get]
        dsimp only
        by_cases dim : m.dim = f.dim
        · rw [perform_require dim, if_neg (not_not.2 dim), ih]
          dsimp only
          cases (buildMembers f build seed (i + 1) starts).1 with
          | error e => rfl
          | ok rest =>
              exact congrArg (fun all => (Except.ok all, (f, ms)))
                (List.append_assoc built [_] rest)
        · rw [perform_require_fail dim, if_pos dim]
          rfl

/-- What is written at the start of a run. -/
def beginning (starts : Population α) (built : List (Solver α)) : Procedure (Staff α) Unit := do
  modify fun (f, ms) => ({ f with stopped := List.replicate built.length false }, ms)
  modify fun (f, _) => (f, built)
  modify fun (f, ms) => ({ f with state := .empty f.dim }, ms)
  modify fun (f, ms) => ({ f with state.population := starts }, ms)
  modify fun (f, ms) =>
    ({ f with state.energies := List.replicate ms.length Double.infinity }, ms)
  modify fun (f, ms) => ({ f with ready := true }, ms)
  modify fun (f, ms) => ({ f with token := f.token.reset }, ms)
  modify fun (f, ms) => ({ f with watch := f.watch.map Watch.reset }, ms)

theorem perform_beginning (f : Frame α) (ms : List (Solver α)) {starts : Population α}
    {built : List (Solver α)} (count : built.length = starts.size) :
    (beginning starts built).perform (f, ms) = (.ok (), (f.begin starts, built)) := by
  unfold Frame.begin
  rw [← count]
  rfl

/-- Drawing the start points of the members. -/
def drawing (box : Option (Box α)) (seed : Seed) :
    Procedure (Staff α) (Population α) := do
  let (f, _) ← get
  require (f.dim ≠ 0) (.configuration .zeroDimension)
  Evolution.checkBox f.dim box
  let starts ← f.starts.generate (Evolution.drawBox f.dim box) seed.generator
  require (¬starts.rows.isEmpty) (.configuration .noStartPoints)
  pure starts

theorem perform_drawing (f : Frame α) (ms : List (Solver α)) (box : Option (Box α))
    (seed : Seed) :
    (drawing box seed).perform (f, ms) = (f.drawStarts box seed, (f, ms)) := by
  unfold drawing Frame.drawStarts
  rw [perform_get]
  dsimp only
  by_cases dim : f.dim = 0
  · rw [perform_require_fail (not_ne_iff.2 dim), if_pos dim]
    rfl
  rw [perform_require dim, if_neg dim]
  cases Evolution.checkBox f.dim box with
  | error e => rfl
  | ok _ =>
      rw [perform_ok]
      cases f.starts.generate (Evolution.drawBox f.dim box) seed.generator with
      | error e => rfl
      | ok starts =>
          rw [perform_ok]
          show _ = (if starts.rows.isEmpty then _ else _, _)
          by_cases empty : starts.rows.isEmpty = true
          · rw [perform_require_fail (not_not.2 empty), if_pos empty]
            rfl
          · rw [perform_require empty, if_neg empty]
            rfl

/-- Making ready: all members are there before the first of them takes its place. -/
def preparing (build : Builder α) (box : Option (Box α)) (seed : Seed) :
    Procedure (Staff α) Unit := do
  let starts ← drawing box seed
  let built ← building build seed 0 starts.rows []
  beginning starts built

theorem perform_preparing (build : Builder α) (f : Frame α) (ms : List (Solver α))
    (box : Option (Box α)) (size : Nat) (seed : Seed) :
    let after := (preparing build box seed).perform (f, ms)
    after.1 = (prepareEnsemble f build ms box size seed).result ∧
      .ensemble after.2.1 build after.2.2 = (prepareEnsemble f build ms box size seed).after := by
  unfold preparing prepareEnsemble
  have drawn := perform_drawing f ms box seed
  cases hd : f.drawStarts box seed with
  | error e =>
      rw [hd] at drawn
      rw [perform_bind_fail drawn]
      exact ⟨rfl, rfl⟩
  | ok starts =>
      rw [hd] at drawn
      rw [perform_bind drawn]
      have made := perform_building build f ms seed 0 starts.rows []
      rcases members : buildMembers f build seed 0 starts.rows with ⟨e | built, events⟩
      · rw [members] at made
        rw [perform_bind_fail made]
        dsimp only
        rw [members]
        exact ⟨rfl, rfl⟩
      · have count := length_of_buildMembers (congrArg Prod.fst members)
        rw [members] at made
        rw [perform_bind made]
        dsimp only [List.nil_append]
        rw [perform_beginning f ms count, members]
        exact ⟨rfl, rfl⟩

theorem after_prepareEnsemble_error {f : Frame α} {ms : List (Solver α)} {box : Option (Box α)}
    {size : Nat} {seed : Seed} {e : SolverError}
    (refused : (prepareEnsemble f build ms box size seed).result = .error e) :
    (prepareEnsemble f build ms box size seed).after = .ensemble f build ms := by
  unfold prepareEnsemble at refused ⊢
  cases hd : f.drawStarts box seed with
  | error e => rfl
  | ok starts =>
      rw [hd] at refused
      dsimp only at refused ⊢
      rcases hb : buildMembers f build seed 0 starts.rows with ⟨e | built, events⟩
      · rfl
      · rw [hb] at refused
        cases refused

/-! ## Setting up a solver -/

/-- The operations by which a solver is set up. -/
inductive Setup (α : Type) [Scalar α] where
  /-- starts a run in a box, with a size of the population, from a seed -/
  | prepare (box : Option (Box α)) (size : Nat) (seed : Seed)
  /-- replaces the drawn population -/
  | populate (p : Population α)
  /-- replaces the start point -/
  | guess (x : Point α)

namespace Setup

variable {s : Solver α} {e : SolverError}

/-- What the operation answers, and the solver afterwards. -/
def answer (s : Solver α) : Setup α → Except SolverError Unit × Solver α
  | prepare box size seed => ((s.prepare box size seed).result, (s.prepare box size seed).after)
  | populate p => settle s (s.setInitialPopulation p)
  | guess x => settle s (s.setInitialGuess x)

/-- Carries the operation out, line by line. -/
def carry (c : Setup α) : Solver α → Except SolverError Unit × Solver α
  | .evolution s =>
    let done := match c with
      | prepare box size seed => (Evolution.preparing box size seed).perform s
      | populate p => (Evolution.populating p).perform s
      | guess x => (Evolution.guessing x).perform s
    (done.1, .evolution done.2)
  | .compass s =>
    let done := match c with
      | prepare box _ seed => (Compass.preparing box seed).perform s
      | populate _ => (.ok (), s)
      | guess x => (Compass.guessing x).perform s
    (done.1, .compass done.2)
  | .ensemble f build ms =>
    let done := match c with
      | prepare box _ seed => (preparing build box seed).perform (f, ms)
      | populate _ | guess _ => (.ok (), (f, ms))
    (done.1, .ensemble done.2.1 build done.2.2)

theorem settle_map {σ τ : Type} (f : σ → τ) (s : σ) (r : Except SolverError σ) :
    settle (f s) (r.map f) = ((settle s r).1, f (settle s r).2) := by
  cases r <;> rfl

/-- What is carried out is what is answered, unless it breaks down. -/
theorem carry_eq_answer (c : Setup α) (s : Solver α) :
    (c.carry s).1 = (c.answer s).1 ∧
      ((∀ fault, (c.answer s).1 ≠ .error (.fault fault)) → (c.carry s).2 = (c.answer s).2) := by
  have exactly (same : c.carry s = c.answer s) : (c.carry s).1 = (c.answer s).1 ∧
      ((∀ fault, (c.answer s).1 ≠ .error (.fault fault)) → (c.carry s).2 = (c.answer s).2) :=
    ⟨congrArg Prod.fst same, fun _ => congrArg Prod.snd same⟩
  cases s with
  | evolution s =>
      cases c with
      | prepare box size seed =>
          obtain ⟨result, after⟩ := Evolution.performs_preparing s box size seed
          exact ⟨result, fun returned => congrArg Solver.evolution (after returned)⟩
      | populate p =>
          refine exactly ?_
          simp only [carry, answer, setInitialPopulation, settle_map, Evolution.perform_populating]
      | guess x =>
          refine exactly ?_
          simp only [carry, answer, setInitialGuess, settle_map, Evolution.perform_guessing]
  | compass s =>
      refine exactly ?_
      cases c with
      | prepare box size seed =>
          simp only [carry, Compass.perform_preparing s box size seed]
          rfl
      | populate p => rfl
      | guess x =>
          simp only [carry, answer, setInitialGuess, settle_map, Compass.perform_guessing]
  | ensemble f build ms =>
      refine exactly ?_
      cases c with
      | prepare box size seed =>
          obtain ⟨result, after⟩ := perform_preparing build f ms box size seed
          exact Prod.ext result after
      | populate p => rfl
      | guess x => rfl

theorem settle_error {σ : Type} {s : σ} {r : Except SolverError σ}
    (refused : (settle s r).1 = .error e) : (settle s r).2 = s := by
  cases r with
  | ok after => cases refused
  | error e => rfl

/-- A refused operation answers with the solver that it was given. -/
theorem answer_error (c : Setup α) (refused : (c.answer s).1 = .error e) :
    (c.answer s).2 = s := by
  cases c with
  | populate p => exact settle_error refused
  | guess x => exact settle_error refused
  | prepare box size seed =>
      cases s with
      | evolution s => exact congrArg Solver.evolution (Evolution.after_prepare_error refused)
      | compass s => exact congrArg Solver.compass (Compass.after_prepare_error refused)
      | ensemble f build ms => exact after_prepareEnsemble_error refused

/-- **What is refused leaves nothing behind**: the solver is what it was. -/
theorem carry_error (c : Setup α) (refused : (c.carry s).1 = .error e)
    (returned : e.fault? = none) : (c.carry s).2 = s := by
  obtain ⟨result, after⟩ := c.carry_eq_answer s
  rw [result] at refused
  rw [after, c.answer_error refused]
  rintro fault broken
  rw [broken] at refused
  cases refused
  cases returned

end Setup

/-! ## Courses -/

/-- What a user does in the course of runs. -/
inductive Deed (α : Type) [Scalar α] where
  /-- sets the solver up -/
  | setUp (c : Setup α)
  /-- makes a call -/
  | call (c : Call α)
  /-- puts something into the solver: a plug-in, caps, a checkpoint -/
  | install (write : Solver α → Solver α)

/-- Something that was done, with what came of it. -/
structure Entry (α : Type) [Scalar α] where
  /-- what was done -/
  deed : Deed α
  /-- what came of it -/
  result : Except SolverError (Option Bool)
  /-- the solver afterwards -/
  after : Solver α

namespace Deed

/-- Does something: the result, the solver afterwards, and the evaluations made. -/
def make (o : Objective α) (s : Solver α) (calls : Nat) :
    Deed α → Except SolverError (Option Bool) × Solver α × Nat
  | setUp c => ((c.carry s).1.map fun _ => none, (c.carry s).2, calls)
  | call c => c.make o s calls
  | install write => (.ok none, write s, calls)

end Deed

/-- Whether the solver was to be set up, and that was rejected. -/
def Entry.isRejection : Entry α → Bool
  | ⟨.setUp _, .error e, _⟩ => e.fault?.isNone
  | _ => false

/-- What is done one after the other, with what comes of it. -/
def course (o : Objective α) : List (Deed α) → Solver α → Nat → List (Entry α)
  | [], _, _ => []
  | d :: ds, s, calls =>
    let done := d.make o s calls
    ⟨d, done.1, done.2.1⟩ :: course o ds done.2.1 done.2.2

/-- A rejection changes neither the solver nor the number of evaluations. -/
theorem make_of_isRejection {o : Objective α} {s : Solver α} {calls : Nat} {d : Deed α}
    (h : Entry.isRejection ⟨d, (d.make o s calls).1, (d.make o s calls).2.1⟩ = true) :
    (d.make o s calls).2 = (s, calls) := by
  cases d with
  | setUp c =>
      cases hc : (c.carry s).1 with
      | ok _ =>
          simp only [Deed.make, hc, Except.map, Entry.isRejection] at h
          cases h
      | error e =>
          simp only [Deed.make, hc, Except.map, Entry.isRejection, Option.isNone_iff_eq_none] at h
          exact congrArg (·, calls) (c.carry_error hc h)
  | call c => cases h
  | install write => cases h

/-- Without the rejections, a course goes as it went. -/
theorem course_filter (o : Objective α) (ds : List (Deed α)) (s : Solver α) (calls : Nat) :
    course o (((course o ds s calls).filter (!·.isRejection)).map (·.deed)) s calls =
      (course o ds s calls).filter (!·.isRejection) := by
  induction ds generalizing s calls with
  | nil => rfl
  | cons d ds ih =>
      rw [course, List.filter_cons]
      cases rejected :
          Entry.isRejection ⟨d, (d.make o s calls).1, (d.make o s calls).2.1⟩ with
      | true =>
          rw [if_neg (by decide), make_of_isRejection rejected]
          exact ih s calls
      | false =>
          rw [if_pos (by decide), List.map_cons, course]
          exact congrArg _ (ih _ _)

/-- **Rejected setup calls are no-ops.**  Take a solver of any of the three families in any state,
and make it ready, or hand it a start population or a start point.  Carried out line by line, the
operation comes to the result that it answers with, and leaves the solver that it answers with
unless it breaks down.  If it is refused, for whatever reason and however far it got, then it leaves
the solver that it was given: state, box, generator, step lengths, members, flags, the
pending request to stop, and what the criterion remembers.  So in any course of setup calls,
generations, calls of `solve`, requests and settings, the rejected setup calls can be left out, and
everything else comes to the same results and to the same solvers. -/
theorem rejected_setup_keeps (s : Solver α) (c : Setup α) :
    (c.carry s).1 = (c.answer s).1 ∧
    ((∀ fault, (c.answer s).1 ≠ .error (.fault fault)) → (c.carry s).2 = (c.answer s).2) ∧
    (∀ e, (c.carry s).1 = .error e → e.fault? = none → (c.carry s).2 = s) ∧
    ∀ (o : Objective α) (ds : List (Deed α)) (calls : Nat),
      course o (((course o ds s calls).filter (!·.isRejection)).map (·.deed)) s calls =
        (course o ds s calls).filter (!·.isRejection) :=
  ⟨(c.carry_eq_answer s).1, (c.carry_eq_answer s).2, fun _ => c.carry_error,
    fun o ds calls => course_filter o ds s calls⟩

end Solver
end BoxSearch

import BoxSearch.Proofs.Solver.Calls
import BoxSearch.Proofs.Solver.Records
import BoxSearch.Session

/-!
# What a memory keeps of a run

A monitor that keeps every record and is the newest one of its side holds what it held
before, and behind it the records of its side among the events that the session heard,
in the order in which they happened (`watching_hearAll`).  Nothing that a solver reports
is lost, heard twice or heard by the other side.

`Worked` is what a user does with a session in the course of a run, with all steps that
were made on the way, and `Worked.followed` goes along on both ends at once: what survives
every call (`Lasting`) holds of the solver, of the steps, and of the events on the way, and
these are what the monitors heard.  So a statement about the records of a run is one about
its events, and compares them with its steps.  `Stepped` is the part of it in which the
user runs single generations and looks at every reply.
-/

namespace BoxSearch

/-- The record that an event holds for one side. -/
def Watched.record? {α : Type} : Watched → Event α → Option (Record α)
  | .evaluations => Event.evaluated?
  | .generations => Event.generation?

namespace Session

variable {y z : Session} {w v : Watched} {r : Record Float} {e : Event Float}
variable {es : List (Event Float)} {kept : Array (Record Float)}

/-! ## Hearing -/

theorem lookup_observe (attached : List (Watched × Monitor)) :
    (observe v r attached).1.lookup w =
      if v = w then (attached.lookup w).map fun m => (m.observe r).1 else attached.lookup w := by
  induction attached with
  | nil => simp [observe]
  | cons entry rest ih =>
      obtain ⟨u, m⟩ := entry
      by_cases huv : u = v
      · subst huv
        by_cases huw : u = w
        · subst huw
          simp [observe]
        · have hne : (w == u) = false := beq_false_of_ne (Ne.symm huw)
          simp [observe, List.lookup_cons, huw, hne]
      · simp only [observe, if_neg huv, List.lookup_cons, ih]
        by_cases hvw : v = w
        · have hne : (w == u) = false := beq_false_of_ne fun h => huv (hvw.trans h).symm
          simp [hvw, hne]
        · simp [if_neg hvw]

theorem attached_hear :
    (z.hear e).attached =
      match Watched.ofEvent e with
      | some (v, r) => (observe v r z.attached).1
      | none => z.attached := by
  cases e <;> rfl

theorem attached_hear_congr (h : y.attached = z.attached) :
    (y.hear e).attached = (z.hear e).attached := by
  rw [attached_hear, attached_hear, h]

theorem attached_hearAll_congr (h : y.attached = z.attached) :
    (y.hearAll es).attached = (z.hearAll es).attached := by
  induction es generalizing y z with
  | nil => exact h
  | cons e es ih => exact ih (attached_hear_congr h)

theorem solver_hear : (z.hear e).solver = z.solver := by
  cases e <;> rfl

theorem solver_hearAll : (z.hearAll es).solver = z.solver := by
  induction es generalizing z with
  | nil => rfl
  | cons e es ih => exact ih.trans solver_hear

theorem hearAll_append (es later : List (Event Float)) :
    z.hearAll (es ++ later) = (z.hearAll es).hearAll later :=
  List.foldl_append

theorem watching_eq_memory_iff :
    z.watching w = .memory kept ↔ z.attached.lookup w = some (.memory kept) := by
  unfold watching
  cases z.attached.lookup w <;> simp

/-- A memory keeps the record that an event holds for its side. -/
theorem watching_hear (h : z.watching w = .memory kept) :
    (z.hear e).watching w = .memory (kept ++ (w.record? e).toArray) := by
  rw [watching_eq_memory_iff] at h ⊢
  rw [attached_hear]
  cases e with
  | log entry => cases w <;>
      simpa [Watched.ofEvent, Watched.record?, Event.evaluated?, Event.generation?] using h
  | evaluated r => cases w <;>
      simp [Watched.ofEvent, Watched.record?, Event.evaluated?, Event.generation?,
        lookup_observe, h, Monitor.observe]
  | generation r => cases w <;>
      simp [Watched.ofEvent, Watched.record?, Event.evaluated?, Event.generation?,
        lookup_observe, h, Monitor.observe]

/-- **A memory keeps all records of its side, in order.** -/
theorem watching_hearAll (h : z.watching w = .memory kept) :
    (z.hearAll es).watching w = .memory (kept ++ (es.filterMap w.record?).toArray) := by
  induction es generalizing z kept with
  | nil => simpa [hearAll] using h
  | cons e es ih =>
      have heard := ih (watching_hear (e := e) h)
      rw [show z.hearAll (e :: es) = (z.hear e).hearAll es from rfl, heard, List.filterMap_cons]
      cases w.record? e <;> simp

theorem memory_of_watching (h : z.watching w = .memory kept) : z.memory w = kept.toList := by
  rw [watching_eq_memory_iff] at h
  unfold memory
  generalize z.attached = attached at h ⊢
  induction attached with
  | nil => cases h
  | cons entry rest ih =>
      obtain ⟨u, m⟩ := entry
      by_cases hu : u = w
      · subst hu
        simp only [List.lookup_cons, beq_self_eq_true, Option.some.injEq] at h
        simp [h, Monitor.records]
      · have hne : (w == u) = false := beq_false_of_ne (Ne.symm hu)
        simp only [List.lookup_cons, hne] at h
        simpa [hu] using ih h

/-- What an empty memory shows after it heard events. -/
theorem memory_of_attached (hz : z.watching w = .memory #[])
    (h : y.attached = (z.hearAll es).attached) : y.memory w = es.filterMap w.record? := by
  have heard : (z.hearAll es).memory w = (#[] ++ (es.filterMap w.record?).toArray).toList :=
    memory_of_watching (watching_hearAll hz)
  unfold memory at heard ⊢
  rw [h, heard]
  simp

/-- What is said about a setting is for the log. -/
theorem attached_hearAll_of_tuned {s t : Solver Float} (h : s.Tuned es t) :
    (z.hearAll es).attached = z.attached := by
  cases h with
  | strategy x => cases s <;> rfl
  | watch x => rfl
  | map x => cases s <;> rfl
  | limits x => rfl
  | init x => rfl
  | constraints x => rfl

/-! ## What a user does with a session -/

/-- The steps that are made when up to `n` generations are run: up to the first that fails. -/
def paces (s : Session) : Nat → List (Solver.Pace Float)
  | 0 => []
  | n + 1 =>
    let (reply, calls) := s.solver.step s.objective s.calls
    let after := { s with solver := Solver.heed s.asks reply, calls }.hearAll reply.events
    ⟨s.solver, s.objective, s.calls⟩ ::
      match reply.result with
      | .error _ => []
      | .ok _ => after.paces n

/-- The steps that are made when the solver is solved with. -/
def solvePaces (s : Session) (budget : Option Nat) : List (Solver.Pace Float) :=
  Solver.paces s.asks s.objective (budget.getD Solver.unlimited) s.calls s.solver

/-- A user works with a session, and its solver is neither made ready anew nor taken
back to a checkpoint: generations are run, one by one or by solving, and may fail; the
run is asked to stop by the user or by an interrupt, and taken up again; start values are
handed in; settings are replaced.  All steps that were made are listed, each on the solver
and the objective that the session had then. -/
inductive Worked (z : Session) : List (Solver.Pace Float) → Session → Prop
  /-- nothing was done -/
  | start : Worked z [] z
  /-- generations were run -/
  | stepped {ps : List (Solver.Pace Float)} {y : Session} (last : Option Bool) (n : Nat)
      (before : Worked z ps y) : Worked z (ps ++ y.paces n) (y.steps last n).2
  /-- the solver was solved with -/
  | solved {ps : List (Solver.Pace Float)} {y : Session} (budget : Option Nat)
      (before : Worked z ps y) : Worked z (ps ++ y.solvePaces budget) (y.solve budget).2
  /-- the run was asked to stop -/
  | cancelled {ps : List (Solver.Pace Float)} {y : Session} (before : Worked z ps y) :
      Worked z ps { y with solver := y.solver.cancel }
  /-- an interrupt arrived -/
  | interrupted {ps : List (Solver.Pace Float)} {y : Session} (before : Worked z ps y) :
      Worked z ps y.interrupt
  /-- it was recorded that a request was seen -/
  | marked {ps : List (Solver.Pace Float)} {y : Session} (before : Worked z ps y) :
      Worked z ps { y with solver := y.solver.markCancelled }
  /-- the drawn population was replaced -/
  | populated {ps : List (Solver.Pace Float)} {y : Session} {t : Solver Float}
      {p : Population Float} (before : Worked z ps y)
      (h : y.solver.setInitialPopulation p = .ok t) : Worked z ps { y with solver := t }
  /-- the start point was replaced -/
  | guessed {ps : List (Solver.Pace Float)} {y : Session} {t : Solver Float} {x : Point Float}
      (before : Worked z ps y) (h : y.solver.setInitialGuess x = .ok t) :
      Worked z ps { y with solver := t }
  /-- a setting of the solver was replaced -/
  | tuned {ps : List (Solver.Pace Float)} {y : Session} {t : Solver Float}
      {said : List (Event Float)} (before : Worked z ps y) (h : y.solver.Tuned said t) :
      Worked z ps ({ y with solver := t }.hearAll said)
  /-- something was done that concerns neither the solver nor the monitors: the objective
  was exchanged, a checkpoint put aside, an interrupt allowed -/
  | aside {ps : List (Solver.Pace Float)} {y x : Session} (before : Worked z ps y)
      (solver : x.solver = y.solver) (attached : x.attached = y.attached) : Worked z ps x

/-- A property that survives every call on a solver also survives other settings. -/
structure Lasting (P : List (Event Float) → List (Solver.Pace Float) → Solver Float → Prop) :
    Prop where
  /-- it survives the calls -/
  calls : Solver.Paced (fun _ => True) P
  /-- it survives other settings -/
  tuned : ∀ {es ps s t said}, s.Tuned said t → P es ps s → P (es ++ said) ps t

/-- A property holds of a solver, the events so far and the steps that were made, and the
monitors of the session heard these events. -/
def Followed (P : List (Event Float) → List (Solver.Pace Float) → Solver Float → Prop)
    (z : Session) (es : List (Event Float)) (ps : List (Solver.Pace Float)) (y : Session) : Prop :=
  P es ps y.solver ∧ y.attached = (z.hearAll es).attached

variable {P : List (Event Float) → List (Solver.Pace Float) → Solver Float → Prop}
variable {ps : List (Solver.Pace Float)}

namespace Followed

/-- One generation, whether or not a monitor asks the run to stop during it. -/
theorem step (inv : Solver.Paced (fun _ => True) P) (h : Followed P z es ps y) (calls : Nat) :
    Followed P z (es ++ (y.solver.step y.objective y.calls).1.events)
      (ps ++ [⟨y.solver, y.objective, y.calls⟩])
      ({ y with
        solver := Solver.heed y.asks (y.solver.step y.objective y.calls).1, calls }.hearAll
          (y.solver.step y.objective y.calls).1.events) := by
  refine ⟨?_, ?_⟩
  · rw [solver_hearAll]
    exact inv.heed trivial h.1 y.asks y.calls
  · rw [hearAll_append]
    exact attached_hearAll_congr h.2

/-- Any number of generations, up to the first that fails. -/
theorem steps (inv : Solver.Paced (fun _ => True) P) (h : Followed P z es ps y)
    (last : Option Bool) (n : Nat) :
    ∃ later, Followed P z (es ++ later) (ps ++ y.paces n) (y.steps last n).2 := by
  induction n generalizing y es ps last with
  | zero => exact ⟨[], by simpa [Session.steps, Session.paces] using h⟩
  | succ n ih =>
      have next := h.step inv (y.solver.step y.objective y.calls).2
      rcases hx : y.solver.step y.objective y.calls with ⟨⟨result, after, events⟩, calls⟩
      rw [hx] at next
      cases result with
      | error e => exact ⟨events, by simpa [Session.steps, Session.paces, hx] using next⟩
      | ok done =>
          obtain ⟨later, hlater⟩ := ih next (some done)
          rw [List.append_assoc, List.append_assoc] at hlater
          exact ⟨events ++ later, by simpa [Session.steps, Session.paces, hx] using hlater⟩

theorem solve (inv : Solver.Paced (fun _ => True) P) (h : Followed P z es ps y)
    (budget : Option Nat) :
    ∃ later, Followed P z (es ++ later) (ps ++ y.solvePaces budget) (y.solve budget).2 := by
  refine ⟨(y.solver.solve y.asks y.objective y.calls budget).1.events, ?_, ?_⟩
  · simp only [Session.solve, settle, solver_hearAll]
    exact inv.solveFrom trivial ps (by simpa using h.1)
  · simp only [Session.solve, settle, hearAll_append]
    exact attached_hearAll_congr h.2

theorem interrupted (inv : Solver.Paced (fun _ => True) P) (h : Followed P z es ps y) :
    Followed P z es ps y.interrupt := by
  dsimp only [interrupt]
  split
  · exact ⟨inv.token _ h.1, h.2⟩
  · exact h

theorem tuned (inv : Lasting P) (h : Followed P z es ps y) {t : Solver Float}
    {said : List (Event Float)} (ht : y.solver.Tuned said t) :
    Followed P z (es ++ said) ps ({ y with solver := t }.hearAll said) := by
  refine ⟨?_, ?_⟩
  · rw [solver_hearAll]
    exact inv.tuned ht h.1
  · rw [hearAll_append]
    exact attached_hearAll_congr h.2

end Followed

/-- **A property that lasts holds wherever a session is worked to**, of its solver, of the steps
that were made, and of events that the monitors heard. -/
theorem Worked.followed (inv : Lasting P) (start : P [] [] z.solver) (h : Worked z ps y) :
    ∃ es, Followed P z es ps y := by
  induction h with
  | start => exact ⟨[], start, rfl⟩
  | stepped last n _ ih =>
      obtain ⟨es, before⟩ := ih
      obtain ⟨later, after⟩ := before.steps inv.calls last n
      exact ⟨_, after⟩
  | solved budget _ ih =>
      obtain ⟨es, before⟩ := ih
      obtain ⟨later, after⟩ := before.solve inv.calls budget
      exact ⟨_, after⟩
  | cancelled _ ih =>
      obtain ⟨es, before⟩ := ih
      exact ⟨es, inv.calls.token _ before.1, before.2⟩
  | interrupted _ ih =>
      obtain ⟨es, before⟩ := ih
      exact ⟨es, before.interrupted inv.calls⟩
  | marked _ ih =>
      obtain ⟨es, before⟩ := ih
      exact ⟨es, inv.calls.marked before.1, before.2⟩
  | populated _ h ih =>
      obtain ⟨es, before⟩ := ih
      exact ⟨es, inv.calls.populated h before.1, before.2⟩
  | guessed _ h ih =>
      obtain ⟨es, before⟩ := ih
      exact ⟨es, inv.calls.guessed h before.1, before.2⟩
  | tuned _ h ih =>
      obtain ⟨es, before⟩ := ih
      exact ⟨_, before.tuned inv h⟩
  | aside _ solver attached ih =>
      obtain ⟨es, before⟩ := ih
      exact ⟨es, solver ▸ before.1, attached.trans before.2⟩

/-! ## Single generations -/

theorem steps_one (last : Option Bool) :
    (y.steps last 1).2 =
      { y with
        solver := Solver.heed y.asks (y.solver.step y.objective y.calls).1
        calls := (y.solver.step y.objective y.calls).2 }.hearAll
          (y.solver.step y.objective y.calls).1.events := by
  rcases hx : y.solver.step y.objective y.calls with ⟨⟨result, after, events⟩, calls⟩
  cases result <;> simp [steps, hx]

/-- A user works with a session and runs single generations, to each of which there is a
reply; a generation that meets a fault has none.  Between them the run is asked to stop and
taken up again, gets another start point, other settings or another objective. -/
inductive Stepped (z : Session) : List (Reply (Solver Float) Float Bool) → Session → Prop
  /-- nothing was done -/
  | start : Stepped z [] z
  /-- a generation was run -/
  | stepped {rs : List (Reply (Solver Float) Float Bool)} {y : Session} (before : Stepped z rs y)
      (returned : ∀ c, (y.solver.step y.objective y.calls).1.result ≠ .error (.fault c)) :
      Stepped z (rs ++ [(y.solver.step y.objective y.calls).1]) (y.steps none 1).2
  /-- the run was asked to stop -/
  | cancelled {rs : List (Reply (Solver Float) Float Bool)} {y : Session}
      (before : Stepped z rs y) : Stepped z rs { y with solver := y.solver.cancel }
  /-- it was recorded that a request was seen -/
  | marked {rs : List (Reply (Solver Float) Float Bool)} {y : Session} (before : Stepped z rs y) :
      Stepped z rs { y with solver := y.solver.markCancelled }
  /-- the start point was replaced -/
  | guessed {rs : List (Reply (Solver Float) Float Bool)} {y : Session} {t : Solver Float}
      {x : Point Float} (before : Stepped z rs y) (h : y.solver.setInitialGuess x = .ok t) :
      Stepped z rs { y with solver := t }
  /-- a setting of the solver was replaced -/
  | tuned {rs : List (Reply (Solver Float) Float Bool)} {y : Session} {t : Solver Float}
      {said : List (Event Float)} (before : Stepped z rs y) (h : y.solver.Tuned said t) :
      Stepped z rs ({ y with solver := t }.hearAll said)
  /-- something was done that concerns neither the solver nor the monitors -/
  | aside {rs : List (Reply (Solver Float) Float Bool)} {y x : Session} (before : Stepped z rs y)
      (solver : x.solver = y.solver) (attached : x.attached = y.attached) : Stepped z rs x

/-- The solver of a session is tried as the user tries it, and the monitors heard what the
replies report. -/
theorem Stepped.tried {rs : List (Reply (Solver Float) Float Bool)} (h : Stepped z rs y) :
    Solver.Tried z.solver rs y.solver ∧
      y.attached = (z.hearAll (rs.flatMap (·.events))).attached := by
  induction h with
  | start => exact ⟨.start, rfl⟩
  | stepped _ returned ih =>
      obtain ⟨tried, heard⟩ := ih
      have next := tried.stepped _ _ returned
      rw [steps_one]
      refine ⟨?_, ?_⟩
      · rw [solver_hearAll]
        unfold Solver.heed
        split
        · exact next.cancelled
        · exact next
      · rw [List.flatMap_append, hearAll_append, List.flatMap_singleton]
        exact attached_hearAll_congr heard
  | cancelled _ ih => exact ⟨ih.1.cancelled, ih.2⟩
  | marked _ ih => exact ⟨ih.1.marked, ih.2⟩
  | guessed _ h ih => exact ⟨ih.1.guessed h, ih.2⟩
  | tuned _ h ih =>
      refine ⟨?_, (attached_hearAll_of_tuned h).trans ih.2⟩
      rw [solver_hearAll]
      exact ih.1.tuned h
  | aside _ solver attached ih => exact ⟨solver ▸ ih.1, attached.trans ih.2⟩

/-- The numbers that a memory of the evaluations shows. -/
theorem Stepped.numbers {rs : List (Reply (Solver Float) Float Bool)} (h : Stepped z rs y)
    (hz : z.watching .evaluations = .memory #[]) :
    (y.memory .evaluations).map (·.evaluations) = Event.numbers (rs.flatMap (·.events)) := by
  rw [memory_of_attached hz h.tried.2]
  rfl

end Session
end BoxSearch

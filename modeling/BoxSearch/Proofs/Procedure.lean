import BoxSearch.Error

/-!
# Procedures

An operation that may be refused is a function here: it answers with an error, or with what
takes the place of the value that it was given, so nothing is left of a refused one.  A program
that owns its state has to see to that itself, for what it has written before a failure stays
written.

A `Procedure` is an operation in this second form, line by line and in the order in which the
lines are carried out.  That it `perform`s what the function answers is then a fact about the
order of its lines.
-/

namespace BoxSearch

/-- Lines that read and write a state, up to the first failure. -/
abbrev Procedure (σ ρ : Type) := ExceptT SolverError (StateM σ) ρ

namespace Procedure

variable {σ ρ ρ' : Type}

/-- Carries a procedure out: what came of it, and the state that it leaves. -/
def perform (p : Procedure σ ρ) (s : σ) : Except SolverError ρ × σ := StateT.run (ExceptT.run p) s

/-- What is seen of an answer: the value that takes the place of `s`, or an error and `s`
itself. -/
def settle (s : σ) : Except SolverError σ → Except SolverError Unit × σ
  | .ok after => (.ok (), after)
  | .error e => (.error e, s)

/-- A procedure does what a function answers: it comes to the same result and, unless it breaks
down, leaves the same state. -/
def Performs (p : Procedure σ ρ) (s : σ) (r : Except SolverError ρ × σ) : Prop :=
  (p.perform s).1 = r.1 ∧ ((∀ c, r.1 ≠ .error (.fault c)) → (p.perform s).2 = r.2)

/-- Goes on only if a condition holds. -/
def require (c : Prop) [Decidable c] (e : SolverError) : Procedure σ Unit :=
  if c then pure () else throw e

variable {c : Prop} [Decidable c] {e : SolverError} {x : ρ} {s t : σ}

theorem perform_require (h : c) (rest : Procedure σ ρ) :
    (require c e >>= fun _ => rest).perform s = rest.perform s := by
  rw [require, if_pos h]
  rfl

theorem perform_require_fail (h : ¬c) (rest : Procedure σ ρ) :
    (require c e >>= fun _ => rest).perform s = (.error e, s) := by
  rw [require, if_neg h]
  rfl

theorem perform_ok (x : ρ) (rest : ρ → Procedure σ ρ') (s : σ) :
    (liftM (Except.ok x : Except SolverError ρ) >>= rest : Procedure σ ρ').perform s =
      (rest x).perform s := rfl

theorem perform_modify (write : σ → σ) (rest : Procedure σ ρ) (s : σ) :
    (modify write >>= fun _ => rest).perform s = rest.perform (write s) := rfl

theorem perform_get (rest : σ → Procedure σ ρ) (s : σ) :
    (get >>= rest).perform s = (rest s).perform s := rfl

/-- A part that succeeds is followed by the rest. -/
theorem perform_bind {p : Procedure σ ρ} (h : p.perform s = (.ok x, t))
    (rest : ρ → Procedure σ ρ') : (p >>= rest).perform s = (rest x).perform t := by
  show (ExceptT.bindCont rest (p.perform s).1).run (p.perform s).2 = _
  rw [h]
  rfl

/-- A part that fails is the last one. -/
theorem perform_bind_fail {p : Procedure σ ρ} (h : p.perform s = (.error e, t))
    (rest : ρ → Procedure σ ρ') : (p >>= rest).perform s = (.error e, t) := by
  show (ExceptT.bindCont rest (p.perform s).1).run (p.perform s).2 = _
  rw [h]
  rfl

end Procedure
end BoxSearch

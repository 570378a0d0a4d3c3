import BoxSearch.Proofs.Criterion.Inquiry
import Mathlib.Data.List.Destutter

/-!
# Observations

A test that compares generations must not count a generation twice, though it may be asked
about it twice.  So of states of one generation that follow each other it takes in the first
one only, and what it remembers is a matter of the observations that are left.

* `State.observed` — the states of a series that are taken in, and `State.observations` their
  best energies;
* `observed_concat` — one state more is noted, or it is of the generation noted last;
* `Test.remember_observed` — a relation of the memory of a test to what it took in holds after
  every series, if it holds of a blank memory and no look spoils it.
-/

namespace BoxSearch

namespace State

variable {α : Type}

/-- Of states of the same generation that follow each other, the first one. -/
def observed (states : List (State α)) : List (State α) :=
  states.destutter fun s t => s.generation ≠ t.generation

/-- The best energies of these states. -/
def observations (states : List (State α)) : List Float := (observed states).map bestEnergy

/-- The newest state is noted, unless its generation is the one noted last. -/
def note (kept : List (State α)) (s : State α) : List (State α) :=
  if kept.getLast?.map generation = some s.generation then kept else kept ++ [s]

theorem note_of_eq {kept : List (State α)} {s : State α}
    (h : kept.getLast?.map generation = some s.generation) : note kept s = kept := if_pos h

theorem note_of_ne {kept : List (State α)} {s : State α}
    (h : kept.getLast?.map generation ≠ some s.generation) : note kept s = kept ++ [s] := if_neg h

theorem note_cons {kept : List (State α)} (some : kept ≠ []) (r s : State α) :
    note (r :: kept) s = r :: note kept s := by
  obtain ⟨t, kept, rfl⟩ := List.exists_cons_of_ne_nil some
  unfold note
  rw [List.getLast?_cons_cons]
  split <;> rfl

/-- **One state more** is observed if it begins a generation. -/
theorem observed_concat (states : List (State α)) (s : State α) :
    observed (states ++ [s]) = note (observed states) s := by
  cases states with
  | nil => rfl
  | cons r states =>
      unfold observed
      rw [List.cons_append, List.destutter_cons', List.destutter_cons']
      induction states generalizing r with
      | nil => by_cases h : r.generation = s.generation <;> simp [note, h]
      | cons t states ih =>
          rw [List.cons_append]
          by_cases h : r.generation = t.generation
          · rw [List.destutter'_cons_neg _ (not_not_intro h),
              List.destutter'_cons_neg _ (not_not_intro h), ih]
          · rw [List.destutter'_cons_pos _ h, List.destutter'_cons_pos _ h, ih,
              note_cons (List.destutter'_ne_nil _ _)]

/-- What is observed are states of the series. -/
theorem mem_of_mem_observed {states : List (State α)} {s : State α} (h : s ∈ observed states) :
    s ∈ states := (List.destutter_sublist _ states).subset h

theorem observed_ne_nil {states : List (State α)} (some : states ≠ []) : observed states ≠ [] :=
  fun nothing => some ((List.destutter_eq_nil _).1 nothing)

end State

/-- **What a test remembers is a matter of its observations.**  The states can be of a kind
that the look relies on. -/
theorem Test.remember_observed {α : Type} [Scalar α] {t : Test}
    {P : Memory → List (State α) → Prop} {Q : State α → Prop} (start : P .blank [])
    (step : ∀ m kept s, Q s → P m kept → P (t.look s m).2 (State.note kept s))
    {states : List (State α)} (kind : ∀ s ∈ states, Q s) :
    P (t.remember .blank states) (State.observed states) := by
  induction states using List.reverseRecOn with
  | nil => exact start
  | append_singleton states s ih =>
      obtain ⟨before, newest⟩ := List.forall_mem_append.1 kind
      rw [remember_concat, State.observed_concat]
      exact step _ _ s (newest s List.mem_cons_self) (ih before)

end BoxSearch

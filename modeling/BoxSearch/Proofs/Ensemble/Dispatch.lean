import BoxSearch.Solver.Ensemble

/-!
# What a dispatching map can do to the moves of the members

A map decides in which order the members of an ensemble make their moves, and it may
leave members out or name places that do not exist.  Whatever it does, each member
that is named has one reply, and that reply is its own move at some count of
evaluations.

* `lookup_run_eq_none_iff` and `of_mem_runAll` — which members have a reply, and
  which one;
* `verdicts_ok` and `verdicts_error` — the flags of a generation in which every member
  succeeded, and the first member, in the order of members, that did not.
-/

namespace BoxSearch

/-! ## Traversals that may fail -/

section Traversal

variable {β γ ε : Type} {g : β → Except ε γ} {xs : List β} {ys : List γ} {e : ε}

/-- A traversal that succeeds gives the values in order. -/
theorem getElem?_of_mapM_ok (h : xs.mapM g = .ok ys) :
    ys.length = xs.length ∧
      ∀ (i : Nat) (x : β), xs[i]? = some x → ∃ y, g x = .ok y ∧ ys[i]? = some y := by
  induction xs generalizing ys with
  | nil =>
      cases h
      exact ⟨rfl, fun i x hx => by simp at hx⟩
  | cons x xs ih =>
      rw [List.mapM_cons] at h
      cases hx : g x with
      | error e => simp [hx, bind, Except.bind] at h
      | ok y =>
          cases ht : xs.mapM g with
          | error e => simp [hx, ht, bind, Except.bind] at h
          | ok zs =>
              simp only [hx, ht, bind, Except.bind, pure, Except.pure, Except.ok.injEq] at h
              subst h
              obtain ⟨hl, hz⟩ := ih ht
              refine ⟨by rw [List.length_cons, List.length_cons, hl], ?_⟩
              intro i v hv
              cases i with
              | zero => cases hv; exact ⟨y, hx, rfl⟩
              | succ i => exact hz i v hv

/-- Every value of a traversal that succeeds is the value at some place. -/
theorem exists_of_mem_mapM (h : xs.mapM g = .ok ys) {y : γ} (hy : y ∈ ys) :
    ∃ x ∈ xs, g x = .ok y := by
  obtain ⟨hl, values⟩ := getElem?_of_mapM_ok h
  obtain ⟨i, hi⟩ := List.mem_iff_getElem?.1 hy
  have hlt : i < xs.length := hl ▸ (List.getElem?_eq_some_iff.1 hi).1
  obtain ⟨y', hx, hy'⟩ := values i _ (List.getElem?_eq_getElem hlt)
  obtain rfl := Option.some.inj (hy'.symm.trans hi)
  exact ⟨_, List.getElem_mem hlt, hx⟩

/-- A traversal of places that all have values succeeds with them. -/
theorem mapM_eq_ok (hl : ys.length = xs.length)
    (h : ∀ (i : Nat) (x : β), xs[i]? = some x → ∃ y, g x = .ok y ∧ ys[i]? = some y) :
    xs.mapM g = .ok ys := by
  induction xs generalizing ys with
  | nil =>
      rw [List.length_nil, List.length_eq_zero_iff] at hl
      rw [hl]
      rfl
  | cons x xs ih =>
      cases ys with
      | nil => cases hl
      | cons y ys =>
          obtain ⟨y', hx, hy⟩ := h 0 x rfl
          cases hy
          have ht := ih (Nat.succ.inj hl) fun i v hv => h (i + 1) v hv
          simp [List.mapM_cons, hx, ht, bind, Except.bind, pure, Except.pure]

/-- A traversal that fails has a first place of failure. -/
theorem exists_of_mapM_error (h : xs.mapM g = .error e) :
    ∃ (i : Nat) (x : β), xs[i]? = some x ∧ g x = .error e ∧
      ∀ j, j < i → ∃ y z, xs[j]? = some y ∧ g y = .ok z := by
  induction xs with
  | nil => cases h
  | cons x xs ih =>
      rw [List.mapM_cons] at h
      cases hx : g x with
      | error e' =>
          simp only [hx, bind, Except.bind, Except.error.injEq] at h
          subst h
          exact ⟨0, x, rfl, hx, fun j hj => absurd hj (by omega)⟩
      | ok y =>
          cases ht : xs.mapM g with
          | ok zs => simp [hx, ht, bind, Except.bind, pure, Except.pure] at h
          | error e' =>
              simp only [hx, ht, bind, Except.bind, Except.error.injEq] at h
              subst h
              obtain ⟨i, v, hv, he, before⟩ := ih ht
              refine ⟨i + 1, v, hv, he, ?_⟩
              intro j hj
              cases j with
              | zero => exact ⟨x, y, rfl, hx⟩
              | succ j => exact before j (by omega)

end Traversal

namespace Dispatch

variable {σ α : Type} {moves : List (Move σ α)} {order : List Nat} {calls i : Nat}
variable {r : Reply σ α Bool} {replies : List (Nat × Reply σ α Bool)} {map : EvaluationMap α}

/-! ## Replies -/

/-- A reply that was recorded is a move that was made. -/
theorem of_mem_runAll {p : Nat × Reply σ α Bool} (h : p ∈ (runAll moves order calls).1) :
    p.1 ∈ order ∧ ∃ move c, moves[p.1]? = some move ∧ (move c).1 = p.2 := by
  induction order generalizing calls with
  | nil => cases h
  | cons j order ih =>
      rw [runAll] at h
      cases hm : moves[j]? with
      | none =>
          rw [hm] at h
          obtain ⟨hi, hr⟩ := ih h
          exact ⟨List.mem_cons_of_mem j hi, hr⟩
      | some move =>
          rw [hm] at h
          rcases List.mem_cons.1 h with rfl | h
          · exact ⟨List.mem_cons_self, move, calls, hm, rfl⟩
          · obtain ⟨hi, hr⟩ := ih h
            exact ⟨List.mem_cons_of_mem j hi, hr⟩

/-- The moves that are made are those of the members that are named. -/
theorem lookup_runAll_eq_none_iff :
    (runAll moves order calls).1.lookup i = none ↔ i ∉ order ∨ moves[i]? = none := by
  induction order generalizing calls with
  | nil => simp [runAll]
  | cons j order ih =>
      rw [runAll]
      cases hm : moves[j]? with
      | none =>
          simp only [ih, List.mem_cons, not_or]
          constructor
          · rintro (hi | hi)
            · by_cases hij : i = j
              · exact Or.inr (hij ▸ hm)
              · exact Or.inl ⟨hij, hi⟩
            · exact Or.inr hi
          · rintro (⟨_, hi⟩ | hi)
            · exact Or.inl hi
            · exact Or.inr hi
      | some move =>
          by_cases hij : i = j
          · subst hij
            simp [hm]
          · have hne : (i == j) = false := by simp [hij]
            simp only [List.lookup_cons, hne, ih, List.mem_cons, hij, false_or]

theorem lookup_run_eq_none_iff (hi : i < moves.length) :
    (run map moves calls).1.lookup i = none ↔ i ∉ map.dispatch moves.length := by
  rw [run, lookup_runAll_eq_none_iff, List.mem_eraseDups, List.getElem?_eq_none_iff]
  constructor
  · rintro (h | h)
    · exact h
    · omega
  · exact Or.inl

theorem mem_of_lookup (h : replies.lookup i = some r) : (i, r) ∈ replies := by
  obtain ⟨l₁, l₂, hl, _⟩ := List.lookup_eq_some_iff.1 h
  rw [hl]
  simp

/-! ## Verdicts -/

theorem fault?_eq_none_iff :
    fault? replies = none ↔ ∀ p ∈ replies, ∀ e, p.2.result = .error e → e.fault? = none := by
  rw [fault?, List.findSome?_eq_none_iff]
  constructor
  · intro h p hp e he
    have := h p hp
    simpa only [he] using this
  · intro h p hp
    cases hr : p.2.result with
    | ok b => simp only [hr]
    | error e => simpa only [hr] using h p hp e hr

theorem outcome_eq_ok_iff {name : String} {b : Bool} :
    outcome name replies i = .ok b ↔ ∃ r, replies.lookup i = some r ∧ r.result = .ok b := by
  unfold outcome
  cases replies.lookup i with
  | none => simp
  | some r => simp

/-- In a generation that is committed every member has a reply, and it succeeded. -/
theorem verdicts_ok {name : String} {count : Nat} {flags : List Bool}
    (h : verdicts name count replies = .ok flags) :
    flags.length = count ∧ ∀ i, i < count →
      ∃ r b, replies.lookup i = some r ∧ r.result = .ok b ∧ flags[i]? = some b := by
  unfold verdicts at h
  cases hf : fault? replies with
  | some c => rw [hf] at h; cases h
  | none =>
      rw [hf] at h
      obtain ⟨hl, hi⟩ := getElem?_of_mapM_ok h
      rw [List.length_range] at hl
      refine ⟨hl, ?_⟩
      intro i hlt
      obtain ⟨b, hb, hflag⟩ := hi i i (List.getElem?_range hlt)
      obtain ⟨r, hr, hres⟩ := outcome_eq_ok_iff.1 hb
      exact ⟨r, b, hr, hres, hflag⟩

/-- If all moves that were made succeeded, and those of all members were made, then
their results are the flags of the generation. -/
theorem verdicts_eq_ok {name : String} {count : Nat} {flags : List Bool}
    (hl : flags.length = count) (made : ∀ p ∈ replies, ∃ b, p.2.result = .ok b)
    (h : ∀ i, i < count →
      ∃ r b, replies.lookup i = some r ∧ r.result = .ok b ∧ flags[i]? = some b) :
    verdicts name count replies = .ok flags := by
  have hf : fault? replies = none := by
    rw [fault?_eq_none_iff]
    intro p hp e he
    obtain ⟨b, hb⟩ := made p hp
    rw [hb] at he
    cases he
  rw [verdicts, hf]
  refine mapM_eq_ok (by rw [hl, List.length_range]) ?_
  intro i x hx
  have hlt : i < count := by
    have hlen := (List.getElem?_eq_some_iff.1 hx).1
    rwa [List.length_range] at hlen
  rw [List.getElem?_range hlt] at hx
  cases hx
  obtain ⟨r, b, hr, hok, hflag⟩ := h i hlt
  exact ⟨b, outcome_eq_ok_iff.2 ⟨r, hr, hok⟩, hflag⟩

/-- In a generation that is abandoned the error is that of the first member, in the
order of members, that failed or was left out. -/
theorem verdicts_error {name : String} {count : Nat} {e : SolverError}
    (h : verdicts name count replies = .error e) (returned : e.fault? = none) :
    fault? replies = none ∧ ∃ i, i < count ∧ outcome name replies i = .error e ∧
      ∀ j, j < i → ∃ r b, replies.lookup j = some r ∧ r.result = .ok b := by
  unfold verdicts at h
  cases hf : fault? replies with
  | some c =>
      rw [hf] at h
      cases h
      cases returned
  | none =>
      rw [hf] at h
      obtain ⟨i, x, hx, he, before⟩ := exists_of_mapM_error h
      have hlt : i < count := by
        have hlen := (List.getElem?_eq_some_iff.1 hx).1
        rwa [List.length_range] at hlen
      rw [List.getElem?_range hlt] at hx
      cases hx
      refine ⟨rfl, i, hlt, he, ?_⟩
      intro j hj
      obtain ⟨y, b, hy, hb⟩ := before j hj
      rw [List.getElem?_range (by omega)] at hy
      cases hy
      obtain ⟨r, hr, hres⟩ := outcome_eq_ok_iff.1 hb
      exact ⟨r, b, hr, hres⟩

/-! ## The members afterwards -/

variable {members : List σ}

@[simp]
theorem length_afters : (afters members replies).length = members.length := by
  simp [afters]

theorem getElem?_afters_of_some {m : σ} (hm : members[i]? = some m)
    (hr : replies.lookup i = some r) : (afters members replies)[i]? = some r.after := by
  simp [afters, List.getElem?_mapIdx, hm, hr]

theorem getElem?_afters_of_none (hr : replies.lookup i = none) :
    (afters members replies)[i]? = members[i]? := by
  simp [afters, List.getElem?_mapIdx, hr]

end Dispatch
end BoxSearch

import BoxSearch.Proofs.Random.Picking
import Mathlib.Data.List.Nodup

/-!
# How a trial is put together

A trial takes each coordinate from its target or from a mutant, at least one from the mutant,
and the mutant is the formula of the variant at the target, the best member, picked members
and a factor, coordinate by coordinate.

* `Formula.value` — the formula at single numbers, with exactly as many picked ones as it
  needs; `getElem?_mutant` says that a mutant is made of such values.
* `Crossover.Mixes` — a trial takes some coordinates from the mutant and the others from the
  target; `exists_mixes` says that every trial does so, and takes at least one.
* `Differential.trialChecked` — a trial made step by step, by the loops over coordinates, with
  every draw, every swap and every access checked; `trialChecked_eq` says that no check fails,
  and that the loops make the trial of the strategy.
* `generate_composed` — what a strategy of differential evolution returns, whatever it is
  asked: a trial put together in this way, or the refusal that is due.
-/

namespace BoxSearch

variable {α γ : Type} [WordSource γ]

/-! ## Formulas -/

namespace Point

variable [Scalar α] {x y : Point α} {a b : α} {j : Nat}

theorem getElem?_add (hx : x[j]? = some a) (hy : y[j]? = some b) :
    (x.add y)[j]? = some (a + b) := by
  rw [add, List.getElem?_zipWith, hx, hy]

theorem getElem?_sub (hx : x[j]? = some a) (hy : y[j]? = some b) :
    (x.sub y)[j]? = some (a - b) := by
  rw [sub, List.getElem?_zipWith, hx, hy]

theorem getElem?_scale (hx : x[j]? = some a) (f : α) : (x.scale f)[j]? = some (a * f) := by
  rw [scale, List.getElem?_map, hx]
  rfl

end Point

namespace Formula

variable [Scalar α]

/-- The formula at single numbers: the target's, the best member's, and as many others as the
formula needs. -/
def value (formula : Formula) (f target best : α) (r : Fin formula.required → α) : α :=
  match formula, r with
  | .best1, r => best + (r (0 : Fin 2) - r (1 : Fin 2)) * f
  | .rand1, r => r (0 : Fin 3) + (r (1 : Fin 3) - r (2 : Fin 3)) * f
  | .rand2, r =>
    r (0 : Fin 5) + (r (1 : Fin 5) + r (2 : Fin 5) - r (3 : Fin 5) - r (4 : Fin 5)) * f
  | .currentToBest1, r => target + (best - target + (r (0 : Fin 2) - r (1 : Fin 2))) * f
  | .best2, r =>
    best + (r (0 : Fin 4) + r (1 : Fin 4) - r (2 : Fin 4) - r (3 : Fin 4)) * f
  | .randToBest1, r =>
    r (0 : Fin 3) + (best - r (0 : Fin 3) + r (1 : Fin 3) - r (2 : Fin 3)) * f

/-- **A coordinate of a mutant is the formula at the coordinates of the members.** -/
theorem getElem?_mutant (formula : Formula) {f t b : α} {current best : Point α} {j : Nat}
    {rows : Fin formula.required → Point α} {m : Fin formula.required → α}
    (ht : current[j]? = some t) (hb : best[j]? = some b) (hm : ∀ k, (rows k)[j]? = some (m k)) :
    (formula.mutant f current best (List.ofFn rows))[j]? = some (formula.value f t b m) := by
  cases formula with
  | best1 =>
      exact Point.getElem?_add hb
        (Point.getElem?_scale (Point.getElem?_sub (hm (0 : Fin 2)) (hm (1 : Fin 2))) f)
  | rand1 =>
      exact Point.getElem?_add (hm (0 : Fin 3))
        (Point.getElem?_scale (Point.getElem?_sub (hm (1 : Fin 3)) (hm (2 : Fin 3))) f)
  | rand2 =>
      have added := Point.getElem?_add (hm (1 : Fin 5)) (hm (2 : Fin 5))
      have taken := Point.getElem?_sub (Point.getElem?_sub added (hm (3 : Fin 5))) (hm (4 : Fin 5))
      exact Point.getElem?_add (hm (0 : Fin 5)) (Point.getElem?_scale taken f)
  | currentToBest1 =>
      have pull := Point.getElem?_sub hb ht
      have difference := Point.getElem?_sub (hm (0 : Fin 2)) (hm (1 : Fin 2))
      exact Point.getElem?_add ht (Point.getElem?_scale (Point.getElem?_add pull difference) f)
  | best2 =>
      have added := Point.getElem?_add (hm (0 : Fin 4)) (hm (1 : Fin 4))
      have taken := Point.getElem?_sub (Point.getElem?_sub added (hm (2 : Fin 4))) (hm (3 : Fin 4))
      exact Point.getElem?_add hb (Point.getElem?_scale taken f)
  | randToBest1 =>
      have pull := Point.getElem?_sub hb (hm (0 : Fin 3))
      have added := Point.getElem?_add pull (hm (1 : Fin 3))
      have taken := Point.getElem?_sub added (hm (2 : Fin 3))
      exact Point.getElem?_add (hm (0 : Fin 3)) (Point.getElem?_scale taken f)

end Formula

/-! ### Members looked up -/

theorem entryAt_eq {β : Type} {xs : List β} {i : Nat} {x : β} (h : xs[i]? = some x) :
    entryAt xs i = .ok x := by
  rw [entryAt, h]

theorem Population.entryAt_rows {p : Population α} {i : Nat} (h : i < p.size) :
    entryAt p.rows i = .ok (p.row i) := by
  refine entryAt_eq ?_
  rw [row, List.getD_eq_getElem?_getD, List.getElem?_eq_getElem h]
  rfl

/-- The members that a list of indices names, up to a count. -/
def Population.membersChecked (p : Population α) (picked : List Nat) (count : Nat) :
    Except Fault (List (Point α)) :=
  (List.range count).mapM fun k => do
    let i ← entryAt picked k
    entryAt p.rows i

theorem Population.membersChecked_eq {p : Population α} {picked : List Nat}
    (members : ∀ i ∈ picked, i < p.size) :
    p.membersChecked picked picked.length = .ok (picked.map p.row) := by
  have looked (passed rest : List Nat) (h : passed ++ rest = picked) :
      ((List.range' passed.length rest.length).mapM fun k => do
        let i ← entryAt picked k
        entryAt p.rows i) = Except.ok (rest.map p.row) := by
    induction rest generalizing passed with
    | nil => rfl
    | cons i rest ih =>
        have entry : entryAt picked passed.length = .ok i := entryAt_eq (by simp [← h])
        have member := Population.entryAt_rows (members i (by simp [← h]))
        have others := ih (passed ++ [i]) (by simp [← h])
        rw [List.length_append, List.length_singleton] at others
        rw [List.length_cons, List.range'_succ, List.mapM_cons, others, entry]
        simp only [bind, Except.bind, member]
        rfl
  rw [membersChecked, List.range_eq_range']
  exact looked [] picked rfl

/-- The mutant of a target, with every member it is made of looked up in the population. -/
def Formula.mutantChecked [Scalar α] (formula : Formula) (f : α) (p : Population α)
    (target best : Nat) (picked : List Nat) : Except Fault (Point α) := do
  let current ← entryAt p.rows target
  let best ← entryAt p.rows best
  let members ← p.membersChecked picked formula.required
  .ok (formula.mutant f current best members)

/-! ## Crossover -/

namespace Crossover

/-- A trial takes some coordinates from the mutant and the others from the target. -/
structure Mixes (target mutant : Point α) (takes : Nat → Bool) (trial : Point α) : Prop where
  length : trial.length = target.length
  coordinate : ∀ j, trial[j]? = if takes j then mutant[j]? else target[j]?

/-- The choice of a first coordinate and the choices of those after it. -/
def takesFirst (first : Bool) (takes : Nat → Bool) : Nat → Bool
  | 0 => first
  | j + 1 => takes j

theorem Mixes.cons {target mutant trial : Point α} {takes : Nat → Bool}
    (mixes : Mixes target mutant takes trial) (first : Bool) (t m : α) :
    Mixes (t :: target) (m :: mutant) (takesFirst first takes)
      ((if first then m else t) :: trial) where
  length := congrArg (· + 1) mixes.length
  coordinate j := by
    cases j with
    | zero => cases first <;> rfl
    | succ j => exact mixes.coordinate j

/-- What is taken beyond the points does not matter. -/
theorem Mixes.congr {target mutant trial : Point α} {takes takes' : Nat → Bool}
    (mixes : Mixes target mutant takes trial) (h : mutant.length = target.length)
    (same : ∀ j < target.length, takes j = takes' j) :
    Mixes target mutant takes' trial where
  length := mixes.length
  coordinate j := by
    by_cases inside : j < target.length
    · rw [mixes.coordinate, same j inside]
    · rw [List.getElem?_eq_none (mixes.length.trans_le (Nat.le_of_not_lt inside)),
        List.getElem?_eq_none (h.trans_le (Nat.le_of_not_lt inside)),
        List.getElem?_eq_none (Nat.le_of_not_lt inside), ite_self]

/-- A trial that takes every place is the mutant. -/
theorem Mixes.eq_mutant {target mutant trial : Point α} {takes : Nat → Bool}
    (mixes : Mixes target mutant takes trial) (h : mutant.length = target.length)
    (all : ∀ j < target.length, takes j = true) : trial = mutant := by
  have every : Mixes target mutant (fun _ => true) trial := mixes.congr h all
  exact List.ext_getElem? fun j => (every.coordinate j).trans (if_pos rfl)

/-- The binomial kind mixes target and mutant, and takes the coordinate that is to be taken
always. -/
theorem exists_mixes_binomialFrom (always : Nat) (rate : Float) (i : Nat)
    {target mutant : Point α} (h : mutant.length = target.length) (g : γ) :
    ∃ takes, Mixes target mutant takes (binomialFrom always rate i target mutant g).1 ∧
      (i ≤ always → takes (always - i) = true) := by
  induction target generalizing i mutant g with
  | nil =>
      cases List.eq_nil_of_length_eq_zero h
      exact ⟨fun _ => true, ⟨rfl, fun _ => rfl⟩, fun _ => rfl⟩
  | cons t target ih =>
      cases mutant with
      | nil => cases h
      | cons m mutant =>
          by_cases here : i = always
          · obtain ⟨takes, mixes, -⟩ := ih (i + 1) (Nat.succ.inj h) g
            refine ⟨takesFirst true takes, ?_, fun _ => ?_⟩
            · rw [binomialFrom, if_pos here]
              exact mixes.cons true t m
            · rw [here, Nat.sub_self, takesFirst]
          · obtain ⟨takes, mixes, taken⟩ :=
              ih (i + 1) (Nat.succ.inj h) (WordSource.uniform (α := Float) g).2
            refine ⟨takesFirst (decide ((WordSource.uniform (α := Float) g).1 < rate)) takes, ?_,
              fun before => ?_⟩
            · have mixes' := mixes.cons (decide ((WordSource.uniform (α := Float) g).1 < rate)) t m
              rw [binomialFrom, if_neg here]
              simpa only [decide_eq_true_eq] using mixes'
            · rw [show always - i = always - (i + 1) + 1 by omega, takesFirst]
              exact taken (by omega)

theorem runLength_succ (rate : Float) (room : Nat) (g : γ) :
    runLength rate (room + 1) g =
      if rate ≤ (WordSource.uniform (α := Float) g).1 then
        (1, (WordSource.uniform (α := Float) g).2)
      else ((runLength rate room (WordSource.uniform (α := Float) g).2).1 + 1,
        (runLength rate room (WordSource.uniform (α := Float) g).2).2) := rfl

theorem runLength_pos (rate : Float) (room : Nat) (g : γ) : 0 < (runLength rate room g).1 := by
  cases room with
  | zero => exact Nat.one_pos
  | succ room =>
      rw [runLength_succ]
      split
      · exact Nat.one_pos
      · exact Nat.succ_pos _

/-- The trial that takes one cyclic run of coordinates from the mutant. -/
def blend (target mutant : Point α) (start length : Nat) : Point α :=
  List.zipWith (fun (takes : Bool) (p : α × α) => if takes then p.2 else p.1)
    ((List.range target.length).map (inRun target.length start length)) (target.zip mutant)

theorem mixes_blend {target mutant : Point α} (h : mutant.length = target.length)
    (start length : Nat) :
    Mixes target mutant (inRun target.length start length) (blend target mutant start length) where
  length := by
    rw [blend, List.length_zipWith, List.length_map, List.length_range, List.length_zip, h,
      Nat.min_self, Nat.min_self]
  coordinate j := by
    by_cases inside : j < target.length
    · rw [blend, List.getElem?_zipWith, List.getElem?_map, List.getElem?_range inside, List.zip,
        List.getElem?_zipWith, List.getElem?_eq_getElem inside,
        List.getElem?_eq_getElem (h.symm ▸ inside)]
      cases hj : inRun target.length start length j <;> simp [hj]
    · have short : (blend target mutant start length).length ≤ j := by
        rw [blend, List.length_zipWith, List.length_map, List.length_range, List.length_zip]
        omega
      rw [List.getElem?_eq_none short, List.getElem?_eq_none (by omega),
        List.getElem?_eq_none (by omega), ite_self]

/-- A run that starts inside of `n` places takes the place where it starts. -/
theorem inRun_start {n start length : Nat} (pos : 0 < length) :
    inRun n start length start = true := by
  rw [inRun, Nat.add_sub_cancel_left, Nat.mod_self]
  exact decide_eq_true pos

/-- **Every trial mixes its target and its mutant**, and takes at least one coordinate from the
mutant. -/
theorem exists_mixes (c : Crossover) (rate : Float) {target mutant : Point α}
    (h : mutant.length = target.length) (wide : 0 < target.length) (g : γ) :
    ∃ takes, Mixes target mutant takes (c.trial rate target mutant g).1 ∧
      ∃ j < target.length, takes j = true := by
  have drawn := WordSource.below_lt wide g
  cases c with
  | binomial =>
      obtain ⟨takes, mixes, taken⟩ := exists_mixes_binomialFrom (WordSource.below target.length g).1
        rate 0 h (WordSource.below target.length g).2
      exact ⟨takes, mixes, _, drawn, taken (Nat.zero_le _)⟩
  | exponential =>
      exact ⟨_, mixes_blend h _ _, _, drawn, inRun_start (runLength_pos rate _ _)⟩

/-! ### The loops over coordinates -/

/-- Copies a coordinate of the mutant into the trial. -/
def copyChecked (mutant trial : Point α) (j : Nat) : Except Fault (Point α) := do
  let m ← entryAt mutant j
  if trial.length ≤ j then .error (.indexOutOfRange j trial.length) else .ok (trial.set j m)

theorem copyChecked_eq {mutant trial : Point α} {j : Nat} {m : α} (hm : mutant[j]? = some m)
    (inside : j < trial.length) : copyChecked mutant trial j = .ok (trial.set j m) := by
  simp only [copyChecked, entryAt_eq hm, bind, Except.bind]
  exact if_neg (Nat.not_le_of_lt inside)

/-- The binomial kind as a loop: `count` coordinates from place `j` on are decided, and those
taken are copied into the trial, which is the target at first. -/
def binomialLoop (always : Nat) (rate : Float) (mutant : Point α) :
    Nat → Nat → Point α → γ → Except Fault (Point α × γ)
  | 0, _, trial, g => .ok (trial, g)
  | count + 1, j, trial, g =>
    if j = always then do
      let trial ← copyChecked mutant trial j
      binomialLoop always rate mutant count (j + 1) trial g
    else
      let (u, g) := WordSource.uniform (α := Float) g
      if u < rate then do
        let trial ← copyChecked mutant trial j
        binomialLoop always rate mutant count (j + 1) trial g
      else binomialLoop always rate mutant count (j + 1) trial g

/-- The loop decides the coordinates that are left and keeps those before them. -/
theorem binomialLoop_eq (always : Nat) (rate : Float) (decided passed : Point α)
    {target mutant : Point α} (hp : passed.length = decided.length)
    (h : mutant.length = target.length) (g : γ) :
    binomialLoop always rate (passed ++ mutant) target.length decided.length (decided ++ target) g =
      .ok (decided ++ (binomialFrom always rate decided.length target mutant g).1,
        (binomialFrom always rate decided.length target mutant g).2) := by
  induction target generalizing decided passed mutant g with
  | nil => rfl
  | cons t target ih =>
      cases mutant with
      | nil => cases h
      | cons m mutant =>
          have entry : (passed ++ m :: mutant)[decided.length]? = some m := by
            rw [← hp, List.getElem?_append_right (Nat.le_refl _), Nat.sub_self,
              List.getElem?_cons_zero]
          have inside : decided.length < (decided ++ t :: target).length := by
            rw [List.length_append, List.length_cons]
            omega
          have copied : copyChecked (passed ++ m :: mutant) (decided ++ t :: target)
              decided.length = .ok ((decided ++ [m]) ++ target) := by
            rw [copyChecked_eq entry inside, List.set_append_right _ _ (Nat.le_refl _),
              Nat.sub_self, List.set_cons_zero, List.append_assoc, List.singleton_append]
          have rest (x : α) (g : γ) :
              binomialLoop always rate (passed ++ m :: mutant) target.length (decided.length + 1)
                  ((decided ++ [x]) ++ target) g =
                .ok (decided ++ x ::
                    (binomialFrom always rate (decided.length + 1) target mutant g).1,
                  (binomialFrom always rate (decided.length + 1) target mutant g).2) := by
            have step := ih (decided ++ [x]) (passed ++ [m]) (by simp [hp]) (Nat.succ.inj h) g
            simpa using step
          rw [List.length_cons, binomialLoop, binomialFrom]
          by_cases here : decided.length = always
          · rw [if_pos here, if_pos here, copied]
            exact rest m g
          · rw [if_neg here, if_neg here]
            by_cases under : (WordSource.uniform (α := Float) g).1 < rate
            · simp only [if_pos under, copied]
              exact rest m _
            · simp only [if_neg under]
              have step := rest t (WordSource.uniform (α := Float) g).2
              rwa [List.append_assoc, List.singleton_append] at step

/-- The exponential kind as a loop: the coordinate at place `j` is copied, then the one after
it, and so on around; after the first copy at most `room` more are made. -/
def runLoop (rate : Float) (mutant : Point α) :
    Nat → Nat → Point α → γ → Except Fault (Point α × γ)
  | 0, j, trial, g => do
    let trial ← copyChecked mutant trial j
    .ok (trial, g)
  | room + 1, j, trial, g => do
    let trial ← copyChecked mutant trial j
    let (u, g) := WordSource.uniform (α := Float) g
    if rate ≤ u then .ok (trial, g)
    else runLoop rate mutant room ((j + 1) % trial.length) trial g

/-- The places of a run are counted from its start on, around the end. -/
theorem distance_eq_iff {n start length j : Nat} (hs : start < n) (hl : length < n) (hj : j < n) :
    (j + n - start) % n = length ↔ (start + length) % n = j := by
  have distance : (j + n - start) % n = if start ≤ j then j - start else j + n - start := by
    split
    · next h =>
      rw [show j + n - start = j - start + n by omega, Nat.add_mod_right]
      exact Nat.mod_eq_of_lt (by omega)
    · next h => exact Nat.mod_eq_of_lt (by omega)
  have place : (start + length) % n =
      if start + length < n then start + length else start + length - n := by
    split
    · next h => exact Nat.mod_eq_of_lt h
    · next h =>
      rw [Nat.mod_eq_sub_mod (Nat.le_of_not_lt h)]
      exact Nat.mod_eq_of_lt (by omega)
  rw [distance, place]
  split <;> split <;> omega

/-- A run that is longer by one takes one more place, the one after its end. -/
theorem inRun_succ {n start length j : Nat} (hs : start < n) (hl : length < n) (hj : j < n) :
    inRun n start (length + 1) j =
      if (start + length) % n = j then true else inRun n start length j := by
  have last := distance_eq_iff hs hl hj
  unfold inRun
  split
  · next h => exact decide_eq_true (Nat.lt_succ_of_le (last.2 h).le)
  · next h =>
    have other := mt last.1 h
    exact decide_eq_decide.2 (by omega)

theorem blend_zero {target mutant : Point α} (h : mutant.length = target.length) (start : Nat) :
    blend target mutant start 0 = target := by
  refine List.ext_getElem? fun j => ?_
  rw [(mixes_blend h start 0).coordinate, inRun]
  rfl

theorem set_blend {target mutant : Point α} (h : mutant.length = target.length)
    {start length : Nat} (hs : start < target.length) (hl : length < target.length) {m : α}
    (hm : mutant[(start + length) % target.length]? = some m) :
    (blend target mutant start length).set ((start + length) % target.length) m =
      blend target mutant start (length + 1) := by
  have mixes := mixes_blend h start length
  have longer := mixes_blend h start (length + 1)
  refine List.ext_getElem? fun j => ?_
  rw [longer.coordinate, List.getElem?_set, mixes.length, mixes.coordinate]
  by_cases hj : j < target.length
  · rw [inRun_succ hs hl hj]
    by_cases here : (start + length) % target.length = j
    · subst here
      simp only [if_true, if_pos hj, hm]
    · simp only [if_neg here]
  · have outside : (start + length) % target.length ≠ j := fun here =>
      hj (here ▸ Nat.mod_lt _ (Nat.zero_lt_of_lt hs))
    rw [if_neg outside, List.getElem?_eq_none (l := target) (by omega),
      List.getElem?_eq_none (l := mutant) (by omega), ite_self, ite_self]

/-- The loop lengthens the run until a draw or the room ends it. -/
theorem runLoop_eq (rate : Float) {target mutant : Point α} (h : mutant.length = target.length)
    {start : Nat} (hs : start < target.length) (room length : Nat)
    (hl : length + room + 1 = target.length) (g : γ) :
    runLoop rate mutant room ((start + length) % target.length)
        (blend target mutant start length) g =
      .ok (blend target mutant start (length + (runLength rate room g).1),
        (runLength rate room g).2) := by
  have copied (length : Nat) (hl : length < target.length) :
      copyChecked mutant (blend target mutant start length) ((start + length) % target.length) =
        .ok (blend target mutant start (length + 1)) := by
    have inside : (start + length) % target.length < target.length :=
      Nat.mod_lt _ (Nat.zero_lt_of_lt hs)
    have reached : (start + length) % target.length < mutant.length := by rwa [h]
    have entry := List.getElem?_eq_getElem reached
    rw [copyChecked_eq entry ((mixes_blend h start length).length.symm ▸ inside),
      set_blend h hs hl entry]
  induction room generalizing length g with
  | zero =>
      rw [runLoop, copied length (by omega)]
      rfl
  | succ room ih =>
      rw [runLoop, copied length (by omega), runLength_succ]
      simp only [bind, Except.bind]
      split
      · rfl
      · have longer := ih (length + 1) (by omega) (WordSource.uniform (α := Float) g).2
        rw [(mixes_blend h start (length + 1)).length, Nat.mod_add_mod, Nat.add_assoc, longer,
          Nat.add_right_comm, Nat.add_assoc]

/-- A trial made by the loops over coordinates. -/
def trialChecked (c : Crossover) (rate : Float) (target mutant : Point α) (g : γ) :
    Except Fault (Point α × γ) := do
  let (place, g) ← WordSource.belowChecked target.length g
  match c with
  | .binomial => binomialLoop place rate mutant target.length 0 target g
  | .exponential => runLoop rate mutant (target.length - 1) place target g

/-- **The loops make the trial**, and copy nothing from or to a place outside the points. -/
theorem trialChecked_eq (c : Crossover) (rate : Float) {target mutant : Point α}
    (h : mutant.length = target.length) (wide : 0 < target.length) (g : γ) :
    c.trialChecked rate target mutant g = .ok (c.trial rate target mutant g) := by
  have drawn := WordSource.below_lt wide g
  simp only [trialChecked, WordSource.belowChecked_eq wide, bind, Except.bind]
  cases c with
  | binomial =>
      exact binomialLoop_eq (WordSource.below target.length g).1 rate [] [] rfl h
        (WordSource.below target.length g).2
  | exponential =>
      have looped := runLoop_eq rate h drawn (target.length - 1) 0 (by omega)
        (WordSource.below target.length g).2
      rwa [Nat.add_zero, Nat.mod_eq_of_lt drawn, blend_zero h, Nat.zero_add] at looped

end Crossover

/-! ## Differential evolution -/

namespace Differential

variable {d : Differential α} {n target : Nat} {p : Population α} {es : List Float}

theorem exists_coordinate {i j : Nat} (table : p.Table n) (hi : i < p.size) (hj : j < n) :
    ∃ x, (p.row i)[j]? = some x :=
  ⟨_, List.getElem?_eq_getElem ((table.length_row hi).symm ▸ hj)⟩

variable [Scalar α]

/-- The trial of a member, made step by step: every draw and every swap is checked, every member
is looked up, and the coordinates are copied one after the other. -/
def trialChecked (d : Differential α) (p : Population α) (es : List Float) (target : Nat) (g : γ) :
    Except Fault (Point α × γ) := do
  let (f, g) := d.mutation.sample g
  let (picked, g) ← Shuffle.distinctIndicesChecked target d.variant.required p.size g
  let mutant ← d.variant.formula.mutantChecked f p target (Energy.argmin es).1 picked
  let current ← entryAt p.rows target
  d.variant.crossover.trialChecked d.rate current mutant g

/-- The checked trial, made step by step. -/
def generateChecked (d : Differential α) (p : Population α) (es : List Float) (target : Nat)
    (g : γ) : Except SolverError (Point α × γ) := do
  d.check p es target
  (d.trialChecked p es target g).mapError .fault

/-- How a trial is put together, with the factor `f`, the picked members `r`, and the coordinates
`takes` taken from the mutant. -/
structure Composed (d : Differential α) (p : Population α) (es : List Float) (target : Nat) (f : α)
    (r : Fin d.variant.required → Nat) (takes : Nat → Bool) (trial : Point α) : Prop where
  /-- a trial is as long as the members -/
  length : trial.length = p.width
  /-- what is picked are members, and none of them is the target -/
  members : ∀ k, r k < p.size ∧ r k ≠ target
  /-- no member is picked twice -/
  distinct : Function.Injective r
  /-- the best one is a member -/
  best : (Energy.argmin es).1 < p.size
  /-- at least one coordinate is taken from the mutant -/
  mutated : ∃ j < p.width, takes j = true
  /-- each coordinate is the target's, or the formula at the members' coordinates -/
  coordinate : ∀ j < p.width, ∃ t b m, (p.row target)[j]? = some t ∧
    (p.row (Energy.argmin es).1)[j]? = some b ∧ (∀ k, (p.row (r k))[j]? = some (m k)) ∧
    trial[j]? = some (if takes j then d.variant.formula.value f t b m else t)

theorem length_picked (enough : d.variant.minPopulation ≤ p.size) (htarget : target < p.size)
    (g : γ) : (d.picked p target g).length = d.variant.required :=
  Shuffle.length_distinctIndices htarget (Nat.lt_of_succ_lt enough) _

/-- **A trial is put together** out of the target and the mutant of distinct other members. -/
theorem exists_composed (table : p.Table n) (wide : 0 < n)
    (enough : d.variant.minPopulation ≤ p.size) (htarget : target < p.size)
    (hes : es.length = p.size) (g : γ) :
    ∃ r takes, d.Composed p es target (d.mutation.sample g).1 r takes
      (d.trial p es target g).1 := by
  have hbest := argmin_lt_size htarget hes
  have hl := length_picked enough htarget g
  let r : Fin d.variant.required → Nat := fun k => (d.picked p target g).get (k.cast hl.symm)
  have among (k) : r k ∈ d.picked p target g := List.get_mem _ _
  have member (k) : r k < p.size := lt_of_mem_picked (among k)
  have rows : (d.picked p target g).map p.row = List.ofFn fun k => p.row (r k) := by
    refine List.ext_getElem (by simp [hl]) fun k _ _ => ?_
    simp [r]
  have hcurrent : (p.row target).length = n := table.length_row htarget
  have hmutant : (d.mutant p es target g).length = n := length_mutant table htarget hes
  obtain ⟨takes, mixes, j, hj, taken⟩ := Crossover.exists_mixes d.variant.crossover d.rate
    (hmutant.trans hcurrent.symm) (hcurrent.symm ▸ wide)
    (Shuffle.distinctIndices target d.variant.required p.size (d.mutation.sample g).2).2
  refine ⟨r, takes, ?_, fun k => ⟨member k, Shuffle.ne_of_mem_distinctIndices (among k)⟩, ?_, hbest,
    ⟨j, ?_, taken⟩, fun j hj => ?_⟩
  · rw [table.width]
    exact d.length_trial table htarget hes g
  · intro k l same
    have place := congrArg Fin.val
      (List.nodup_iff_injective_get.1 (Shuffle.nodup_distinctIndices ..) same)
    exact Fin.ext place
  · rwa [table.width, ← hcurrent]
  · rw [table.width] at hj
    obtain ⟨t, ht⟩ := exists_coordinate table htarget hj
    obtain ⟨b, hb⟩ := exists_coordinate table hbest hj
    choose m hm using fun k => exists_coordinate table (member k) hj
    have mutated : (d.mutant p es target g)[j]? =
        some (d.variant.formula.value (d.mutation.sample g).1 t b m) := by
      rw [mutant, rows]
      exact d.variant.formula.getElem?_mutant ht hb hm
    have mixed := mixes.coordinate j
    rw [mutated, ht, ← apply_ite some] at mixed
    exact ⟨t, b, m, ht, hb, hm, mixed⟩

/-- **No check fails on the way to a trial**, and made step by step it is the same trial. -/
theorem trialChecked_eq (table : p.Table n) (wide : 0 < n)
    (enough : d.variant.minPopulation ≤ p.size) (htarget : target < p.size)
    (hes : es.length = p.size) (g : γ) :
    d.trialChecked p es target g = .ok (d.trial p es target g) := by
  have hbest := argmin_lt_size htarget hes
  have members : p.membersChecked (d.picked p target g) d.variant.formula.required =
      .ok ((d.picked p target g).map p.row) := by
    have looked : p.membersChecked (d.picked p target g) (d.picked p target g).length =
        .ok ((d.picked p target g).map p.row) :=
      Population.membersChecked_eq fun i hi => lt_of_mem_picked hi
    rwa [length_picked enough htarget g] at looked
  have hcurrent : (p.row target).length = n := table.length_row htarget
  have hmutant : (d.mutant p es target g).length = n := length_mutant table htarget hes
  unfold picked at members
  simp only [trialChecked, Shuffle.distinctIndicesChecked_eq, Formula.mutantChecked,
    Population.entryAt_rows htarget, Population.entryAt_rows hbest, bind, Except.bind, members]
  exact Crossover.trialChecked_eq d.variant.crossover d.rate (hmutant.trans hcurrent.symm)
    (hcurrent.symm ▸ wide) _

/-- A strategy whose trials are made step by step answers every request in the same way. -/
theorem generateChecked_eq (table : p.Table n) (wide : 0 < n) (g : γ) :
    d.generateChecked p es target g = d.generate p es target g := by
  cases hc : d.check p es target with
  | error e => simp only [generateChecked, generate, hc, bind, Except.bind]
  | ok u =>
      obtain ⟨htarget, hes⟩ := of_check hc
      have made := trialChecked_eq table wide (minPopulation_le_of_check hc) htarget hes g
      simp only [generateChecked, generate, hc, bind, Except.bind, made]
      rfl

/-- **What is returned for a target.**  In a population with columns the trial made step by step,
with every draw, swap and access checked, is the trial of the strategy.  Too small a population is
refused, then a target that is no member, then energies of another number than the members, whatever
the source would have given; anything else is answered by a trial, put together with the factor that
the mutation setting draws. -/
theorem generate_composed (d : Differential α) {n : Nat} (p : Population α) (table : p.Table n)
    (wide : 0 < n) (es : List Float) (target : Nat) (g : γ) :
    d.generateChecked p es target g = d.generate p es target g ∧
    (p.size < d.variant.minPopulation →
      d.generate p es target g =
        .error (.insufficientPopulation d.variant.minPopulation p.size)) ∧
    (d.variant.minPopulation ≤ p.size → p.size ≤ target →
      d.generate p es target g = .error (.configuration (.targetOutside target p.size))) ∧
    (d.variant.minPopulation ≤ p.size → target < p.size → es.length ≠ p.size →
      d.generate p es target g = .error (.dimensionMismatch "energies" p.size es.length)) ∧
    (d.variant.minPopulation ≤ p.size → target < p.size → es.length = p.size →
      ∃ trial g', d.generate p es target g = .ok (trial, g') ∧ trial.length = n ∧
        ∃ r takes, d.Composed p es target (d.mutation.sample g).1 r takes trial) := by
  have refused {e} (h : d.check p es target = .error e) : d.generate p es target g = .error e := by
    simp only [generate, h, bind, Except.bind]
  refine ⟨generateChecked_eq table wide g, fun few => refused ?_, fun enough outside => refused ?_,
    fun enough htarget other => refused ?_, fun enough htarget hes => ?_⟩
  · simp only [check, checkPopulation, if_pos few, bind, Except.bind]
  · simp only [check, checkPopulation, if_neg (Nat.not_lt_of_le enough), if_pos outside, bind,
      Except.bind]
  · simp only [check, checkPopulation, if_neg (Nat.not_lt_of_le enough),
      if_neg (Nat.not_le_of_lt htarget), if_pos other, bind, Except.bind]
  · obtain ⟨r, takes, composed⟩ := d.exists_composed table wide enough htarget hes g
    refine ⟨(d.trial p es target g).1, (d.trial p es target g).2, ?_,
      d.length_trial table htarget hes g, r, takes, composed⟩
    simp only [generate, check_eq_ok table wide enough htarget hes, bind, Except.bind]

/-! ### Four members in the plane -/

/-- A population of some corners of a square. -/
def corners (count : Nat) : Population Float :=
  ⟨2, [[0.0, 0.0], [1.0, 0.0], [0.0, 1.0], [1.0, 1.0]].take count⟩

theorem table_corners (count : Nat) : (corners count).Table 2 where
  width := rfl
  lengths x hx := by
    have corner := List.mem_of_mem_take hx
    simp only [List.mem_cons, List.not_mem_nil, or_false] at corner
    rcases corner with rfl | rfl | rfl | rfl <;> rfl

/-- The standard strategy takes two others for a trial, so it makes one of four members, and
refuses three members, a fifth target, and three energies of four members. -/
theorem generate_composed_corners :
    (∃ trial g', Differential.generate ⟨.standard, .standard, 0.9⟩ (corners 4)
        [4.0, 1.0, 3.0, 2.0] 3 (Generator.ofSeed 1) = .ok (trial, g') ∧ trial.length = 2 ∧
      ∃ r takes, Composed ⟨.standard, .standard, 0.9⟩ (corners 4) [4.0, 1.0, 3.0, 2.0] 3 0.8
        r takes trial) ∧
    Differential.generate ⟨.standard, .standard, 0.9⟩ (corners 3) [4.0, 1.0, 3.0] 2
      (Generator.ofSeed 1) = .error (.insufficientPopulation 4 3) ∧
    Differential.generate ⟨.standard, .standard, 0.9⟩ (corners 4) [4.0, 1.0, 3.0, 2.0] 4
      (Generator.ofSeed 1) = .error (.configuration (.targetOutside 4 4)) ∧
    Differential.generate ⟨.standard, .standard, 0.9⟩ (corners 4) [4.0, 1.0, 3.0] 3
      (Generator.ofSeed 1) = .error (.dimensionMismatch "energies" 4 3) := by
  have four (es : List Float) (target : Nat) :=
    generate_composed ⟨.standard, .standard, 0.9⟩ (corners 4) (table_corners 4) Nat.two_pos es
      target (Generator.ofSeed 1)
  have three := generate_composed ⟨.standard, .standard, 0.9⟩ (corners 3) (table_corners 3)
    Nat.two_pos [4.0, 1.0, 3.0] 2 (Generator.ofSeed 1)
  exact ⟨(four [4.0, 1.0, 3.0, 2.0] 3).2.2.2.2 (by decide) (by decide) rfl, three.2.1 (by decide),
    (four [4.0, 1.0, 3.0, 2.0] 4).2.2.1 (by decide) (by decide),
    (four [4.0, 1.0, 3.0] 3).2.2.2.1 (by decide) (by decide) (by decide)⟩

end Differential
end BoxSearch

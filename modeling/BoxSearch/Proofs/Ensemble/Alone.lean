import BoxSearch.Proofs.Ensemble.Generation
import BoxSearch.Proofs.Solver.Alone

/-!
# An ensemble is its members run alone

The members of an ensemble share an objective and a dispatching map, and nothing else.  So
where the objective is pure, stepping them together, in whatever order and with others
evaluating in between, leads each of them where its own steps alone would lead it.

* `Started` and `Separate` — the ensembles and members at the start of a run;
  `started_prepareEnsemble` says that starting a run makes such an ensemble;
* `Driven` — a number of committed generations, each under a map of its own;
* `Follows` — what the frame shows then of members that are as their steps alone left them,
  and `Follows.step`, one generation more;
* `ensemble_eq_members_alone` — the comparison, with the generation at which the ensemble
  stops.
-/

namespace BoxSearch

/-- A list with one entry per entry of another one, each the value of a function there. -/
theorem eq_map_of_getElem? {β γ : Type} {g : β → γ} {xs : List β} {ys : List γ}
    (hl : ys.length = xs.length) (h : ∀ (i : Nat) x, xs[i]? = some x → ys[i]? = some (g x)) :
    ys = xs.map g := by
  refine List.ext_getElem? fun i => ?_
  rw [List.getElem?_map]
  cases hx : xs[i]? with
  | some x => exact h i x hx
  | none =>
      rw [List.getElem?_eq_none_iff] at hx
      exact List.getElem?_eq_none_iff.2 (hl ▸ hx)

theorem foldr_max_le_iff {gs : List Nat} {k : Nat} : gs.foldr max 0 ≤ k ↔ ∀ g ∈ gs, g ≤ k := by
  induction gs with
  | nil => simp
  | cons g gs ih => simp [ih]

/-! ## What the frame makes of a generation -/

namespace Frame

variable {α : Type} [Scalar α]
variable {f : Frame α} {stopped : List Bool} {states : List (State α)} {b : Bool}

/-- The frame shows the states of its members: their best pairs row by row, the sum of
their evaluations, and the lowest of their best energies. -/
structure Mirrors (f : Frame α) (states : List (State α)) : Prop where
  /-- the row of a member is its best point -/
  rows : f.state.population.rows = states.map (·.bestSolution)
  /-- and its energy is that of this point -/
  energies : f.state.energies = states.map (·.bestEnergy)
  /-- the evaluations of all members together -/
  evaluations : f.state.evaluations = (states.map (·.evaluations)).sum
  /-- the best energy is the lowest one -/
  best : Energy.IsLowest f.state.bestEnergy f.state.energies

/-- The question whether the run ends is about the status alone. -/
theorem concluded_eq (f : Frame α) (reason : Option String) :
    ∃ status, f.concluded reason = { f with state := { f.state with status } } := by
  unfold concluded
  split
  · exact ⟨_, rfl⟩
  · exact ⟨f.state.status, rfl⟩

/-- What a generation commits, but for the criterion and the status. -/
theorem conclude_eq (h : (f.conclude stopped states).result = .ok b) :
    ∃ watch status, (f.conclude stopped states).after =
      { f.aggregated stopped states with
        watch, state := { (f.aggregated stopped states).state with status } } := by
  obtain ⟨reason, watch, _, _, ha⟩ := conclude_ok h
  obtain ⟨status, hs⟩ := concluded_eq { f.aggregated stopped states with watch } reason
  exact ⟨watch, status, ha.trans hs⟩

theorem bestEnergy_aggregated (f : Frame α) (stopped : List Bool) (states : List (State α)) :
    (f.aggregated stopped states).state.bestEnergy =
      Energy.improve f.state.bestEnergy (states.map (·.bestEnergy)) := by
  unfold aggregated aggregate Energy.improve
  rcases Energy.argmin (states.map (·.bestEnergy)) with ⟨k, e⟩
  rfl

/-- A generation mirrors its members, if the best energy before it was that of members which
have got no worse since, or if there was none. -/
theorem mirrors_conclude (h : (f.conclude stopped states).result = .ok b)
    (lowest : f.state.bestEnergy = Double.infinity ∨
      ∃ es, Energy.IsLowest f.state.bestEnergy es ∧
        List.Forall₂ Energy.NoWorse (states.map (·.bestEnergy)) es) :
    (f.conclude stopped states).after.Mirrors states := by
  have best : Energy.IsLowest (f.aggregated stopped states).state.bestEnergy
      (states.map (·.bestEnergy)) := by
    rw [bestEnergy_aggregated]
    rcases lowest with unknown | ⟨es, lowest, kept⟩
    · rw [unknown, Energy.improve_infinity]
      exact Energy.isLowest_argmin _
    · exact lowest.improve kept
  obtain ⟨watch, status, ha⟩ := conclude_eq h
  rw [ha]
  exact ⟨rfl, rfl, rfl, best⟩

/-- Without a criterion a generation whose members succeeded is committed. -/
theorem conclude_unwatched (stopped : List Bool) (states : List (State α)) (hw : f.watch = none) :
    (f.conclude stopped states).result = .ok (f.aggregated stopped states).ownReason?.isSome ∧
      (f.conclude stopped states).after =
        ({ f.aggregated stopped states with watch := none } : Frame α).concluded none := by
  have ha : askWatch (f.aggregated stopped states).state (f.aggregated stopped states).watch =
      .ok (none, none) := by
    rw [show (f.aggregated stopped states).watch = none from hw]
    rfl
  exact checkStop_of_askWatch ha

theorem watch_conclude (stopped : List Bool) (states : List (State α)) (hw : f.watch = none) :
    (f.conclude stopped states).after.watch = none := by
  obtain ⟨status, hs⟩ := concluded_eq { f.aggregated stopped states with watch := none } none
  rw [(conclude_unwatched stopped states hw).2, hs]

/-- Without criterion and limits an ensemble stops when all its members have stopped. -/
theorem reason_conclude (stopped : List Bool) (states : List (State α)) (hw : f.watch = none)
    (hl : f.limits = .none) :
    (f.conclude stopped states).after.state.reason? =
      if stopped.all id then some "All members stopped" else none := by
  have hown : ({ f.aggregated stopped states with watch := none } : Frame α).ownReason? =
      if stopped.all id then some "All members stopped" else none := by
    unfold ownReason?
    rw [show ({ f.aggregated stopped states with watch := none } : Frame α).limits = .none from hl]
    exact Option.or_none
  rw [(conclude_unwatched stopped states hw).2, concluded, hown]
  cases stopped.all id with
  | true => rfl
  | false => rfl

end Frame

namespace Solver

variable {α : Type} [Scalar α]
variable {f g : Frame α} {build : Builder α} {members : List (Solver α)} {o : Objective α}
variable {m t : Solver α} {k calls : Nat} {b : Bool}

/-! ## The start of a run -/

/-- A member whose run is yet to begin and is its own affair. -/
structure Separate (m : Solver α) : Prop extends Independent m, Unbegun m

theorem separate_evolution {s : Evolution α} (steady : ∀ map, s.map = some map → map.Steady)
    (start : s.state.generation = 0) (going : s.state.isTerminated = false) :
    (Solver.evolution s).Separate :=
  ⟨⟨trivial, steady⟩, ⟨start, going⟩⟩

theorem separate_compass {s : Compass α} (steady : s.map.Steady)
    (start : s.state.generation = 0) (going : s.state.isTerminated = false) :
    (Solver.compass s).Separate :=
  ⟨⟨trivial, fun _ h => Option.some.inj h ▸ steady⟩, ⟨start, going⟩⟩

/-- An ensemble whose run is yet to begin. -/
structure Started (f : Frame α) (members : List (Solver α)) : Prop where
  /-- its members were built -/
  ready : f.ready = true
  /-- there are members -/
  occupied : members ≠ []
  /-- none of them has stopped -/
  active : f.stopped = List.replicate members.length false
  /-- no best energy is known -/
  best : f.state.bestEnergy = Double.infinity
  /-- nothing was run -/
  status : f.state.status = .ready
  /-- and nothing counted -/
  generation : f.state.generation = 0

theorem ne_nil_of_drawStarts {box : Option (Box α)} {seed : Seed} {starts : Population α}
    (h : f.drawStarts box seed = .ok starts) : starts.rows ≠ [] := by
  intro empty
  unfold Frame.drawStarts at h
  rcases hg : f.starts.generate (Evolution.drawBox f.dim box) seed.generator with e | p
  all_goals
    by_cases hd : f.dim = 0
    · simp [hd, bind, Except.bind] at h
    rcases hb : Evolution.checkBox f.dim box with e' | u
    · simp [hd, hb, bind, Except.bind] at h
  · simp [hd, hb, hg, bind, Except.bind] at h
  · by_cases hp : p.rows.isEmpty = true
    · simp [hd, hb, hg, hp, bind, Except.bind] at h
    · simp only [hd, hb, hg, hp, bind, Except.bind, Bool.false_eq_true, if_false,
        Except.ok.injEq] at h
      rw [h, empty] at hp
      exact hp rfl

/-- Starting a run makes such an ensemble, of the members that are built. -/
theorem started_prepareEnsemble {box : Option (Box α)} {size : Nat} {seed : Seed}
    (h : (prepareEnsemble f build members box size seed).result = .ok ()) :
    ∃ starts built, (buildMembers f build seed 0 starts.rows).1 = .ok built ∧
      (prepareEnsemble f build members box size seed).after =
        .ensemble (f.begin starts) build built ∧
      Started (f.begin starts) built := by
  unfold prepareEnsemble at h ⊢
  cases hd : f.drawStarts box seed with
  | error e => rw [hd] at h; cases h
  | ok starts =>
      rw [hd] at h
      rcases hb : buildMembers f build seed 0 starts.rows with ⟨e | built, events⟩
      · simp only [hb] at h
        cases h
      · have hl : built.length = starts.rows.length :=
          length_of_buildMembers (f := f) (by rw [hb])
        refine ⟨starts, built, by rw [hb], by simp only [hb]; rfl, rfl, ?_, ?_, rfl, rfl, rfl⟩
        · intro none
          rw [none] at hl
          exact ne_nil_of_drawStarts hd (List.length_eq_zero_iff.1 hl.symm)
        · rw [hl]
          rfl

/-! ## Generations one after the other -/

/-- An ensemble after a number of generations, each of which was committed under a map that
dispatches the members in an order of its own. -/
inductive Driven (o : Objective α) (s : Solver α) : Nat → Solver α → Prop
  /-- no generation -/
  | start : Driven o s 0 s
  /-- one generation more -/
  | step {k : Nat} {t : Solver α} {b : Bool} (d : EvaluationMap α) (calls : Nat)
      (before : Driven o s k t) (going : t.state.isTerminated = false)
      (committed : ((t.setMap d).1.step o calls).1.result = .ok b) :
      Driven o s (k + 1) ((t.setMap d).1.step o calls).1.after

/-- What is known of a member that is as its steps alone left it. -/
structure OnItsOwn (o : Objective α) (m : Solver α) (k : Nat) : Prop where
  /-- it started its run on its own -/
  separate : m.Separate
  /-- its first energies are there after the first generation -/
  begun : 0 < k → (alone o m k).Begun

/-- What a generation makes of such a member: it is on its own still, and its best energy,
once there is one, is no worse. -/
structure Moved (o : Objective α) (m : Solver α) (k : Nat) : Prop where
  /-- it is as one step more has left it -/
  own : OnItsOwn o m (k + 1)
  /-- its best energy is no worse -/
  best : 0 < k →
    Energy.NoWorse (alone o m (k + 1)).state.bestEnergy (alone o m k).state.bestEnergy

/-- The reply of a member in a generation: it makes the next step of those that it makes
alone, or none if its run has ended. -/
theorem OnItsOwn.turn (h : OnItsOwn o m k) (pure : o.Pure) {r : Reply (Solver α) α Bool}
    (hr : r = if (alone o m k).state.isTerminated then (Dispatch.rest (alone o m k) calls).1
      else ((alone o m k).step o calls).1)
    (ok : r.result = .ok b) :
    r.after = alone o m (k + 1) ∧ (alone o m (k + 1)).state.isTerminated = b ∧ Moved o m k := by
  cases ended : (alone o m k).state.isTerminated with
  | true =>
      rw [if_pos ended] at hr
      subst hr
      cases ok
      have pos : 0 < k := by
        refine Nat.pos_of_ne_zero ?_
        rintro rfl
        rw [alone_zero, h.separate.going] at ended
        cases ended
      have stays := alone_of_isTerminated ended (Nat.le_succ k)
      have moved : Moved o m k :=
        ⟨⟨h.separate, fun _ => stays ▸ h.begun pos⟩, fun _ => stays ▸ .refl _⟩
      exact ⟨stays.symm, stays ▸ ended, moved⟩
  | false =>
      rw [ended, if_neg Bool.false_ne_true] at hr
      subst hr
      have next := alone_succ h.separate.toIndependent pure k calls
      have lone := (h.separate.toIndependent.alone o k).lone
      obtain ⟨begun, best⟩ := step_best lone ended ok
      have moved : Moved o m k :=
        ⟨⟨h.separate, fun _ => next ▸ begun⟩, fun pos => next ▸ best (h.begun pos)⟩
      exact ⟨next.symm, next ▸ (step_going ended ok).2, moved⟩

/-- The frame of an ensemble after a number of generations in which its members were
stepped from the given ones. -/
structure Follows (f : Frame α) (o : Objective α) (members : List (Solver α)) (k : Nat)
    (g : Frame α) : Prop where
  /-- the generations are counted -/
  generation : g.state.generation = k
  /-- the members that have stopped are those whose runs have ended -/
  stopped : g.stopped = members.map fun m => (alone o m k).state.isTerminated
  /-- there is no best energy before the first generation -/
  unknown : k = 0 → g.state.bestEnergy = Double.infinity
  /-- from then on the frame mirrors the members -/
  mirrors : 0 < k → g.Mirrors (members.map fun m => (alone o m k).state)
  /-- each member is as its steps alone left it -/
  each : ∀ m ∈ members, OnItsOwn o m k
  /-- the parts that a generation does not touch -/
  fixed : g.ready = true ∧ g.dim = f.dim ∧ g.limits = f.limits
  /-- no criterion comes from nowhere -/
  unwatched : f.watch = none → g.watch = none
  /-- without criterion and limits the members alone decide about the end -/
  ending : f.watch = none → f.limits = .none →
    g.state.reason? = if g.stopped.all id then some "All members stopped" else none

theorem Started.follows (started : Started f members) (separate : ∀ m ∈ members, m.Separate)
    (o : Objective α) : Follows f o members 0 f where
  generation := started.generation
  stopped := by
    rw [started.active]
    refine eq_map_of_getElem? List.length_replicate fun i m hm => ?_
    rw [alone_zero, (separate m (List.mem_of_getElem? hm)).going]
    exact List.getElem?_replicate_of_lt (List.getElem?_eq_some_iff.1 hm).1
  unknown _ := started.best
  mirrors pos := absurd pos (Nat.lt_irrefl 0)
  each m hm := ⟨separate m hm, fun pos => absurd pos (Nat.lt_irrefl 0)⟩
  fixed := ⟨started.ready, rfl, rfl⟩
  unwatched hw := hw
  ending _ _ := by
    rw [State.reason?, started.status, started.active]
    cases members with
    | nil => exact absurd rfl started.occupied
    | cons m ms => rfl

/-- The members after a number of steps that each of them makes alone. -/
def aloneAll (o : Objective α) (members : List (Solver α)) (k : Nat) : List (Solver α) :=
  members.map fun m => alone o m k

theorem getElem?_aloneAll {i : Nat} (hm : members[i]? = some m) :
    (aloneAll o members k)[i]? = some (alone o m k) := by
  rw [aloneAll, List.getElem?_map, hm]
  rfl

theorem length_aloneAll : (aloneAll o members k).length = members.length := List.length_map ..

/-- The replies of a generation under a map, of members that are as their steps alone left
them. -/
def reports (g : Frame α) (d : EvaluationMap α) (o : Objective α) (members : List (Solver α))
    (k calls : Nat) : List (Nat × Reply (Solver α) α Bool) :=
  replies { g with map := d } (aloneAll o members k) (Solver.moves o (aloneAll o members k)) calls

/-- Each reply of a generation is that of the next step of a member, or of its rest if its
run has ended. -/
theorem Follows.of_mem_replies (h : Follows f o members k g) {d : EvaluationMap α}
    {p : Nat × Reply (Solver α) α Bool}
    (hp : p ∈ reports g d o members k calls) :
    ∃ m c, members[p.1]? = some m ∧
      p.2 = if (alone o m k).state.isTerminated then (Dispatch.rest (alone o m k) c).1
        else ((alone o m k).step o c).1 := by
  obtain ⟨m', flag, move, c, hm', hflag, hmove, hreply⟩ := Solver.of_mem_replies hp
  rw [aloneAll, List.getElem?_map, Option.map_eq_some_iff] at hm'
  obtain ⟨m, hm, rfl⟩ := hm'
  rw [getElem?_moves, getElem?_aloneAll hm] at hmove
  rw [show ({ g with map := d } : Frame α).stopped = _ from h.stopped, List.getElem?_map, hm]
    at hflag
  cases hflag
  cases hmove
  exact ⟨m, c, hm, hreply⟩

/-- In a generation that is committed each member makes its own next step, or rests at the
end of its run. -/
theorem Follows.turned (h : Follows f o members k g) (pure : o.Pure) (d : EvaluationMap α)
    {flags : List Bool}
    (hv : Dispatch.verdicts d.name (aloneAll o members k).length (reports g d o members k calls) =
      .ok flags) :
    Dispatch.afters (aloneAll o members k) (reports g d o members k calls) =
        aloneAll o members (k + 1) ∧
      flags = members.map (fun m => (alone o m (k + 1)).state.isTerminated) ∧
      ∀ m ∈ members, Moved o m k := by
  obtain ⟨hflags, verdict⟩ := Dispatch.verdicts_ok hv
  have turned : ∀ (i : Nat) m, members[i]? = some m → ∃ r,
      (Dispatch.afters (aloneAll o members k) (reports g d o members k calls))[i]? = some r ∧
      r = alone o m (k + 1) ∧
      flags[i]? = some (alone o m (k + 1)).state.isTerminated ∧ Moved o m k := by
    intro i m hm
    have hnow := getElem?_aloneAll (o := o) (k := k) hm
    obtain ⟨r, b, hr, hok, hflag⟩ := verdict i (List.getElem?_eq_some_iff.1 hnow).1
    obtain ⟨m', c, hm', hreply⟩ := h.of_mem_replies (Dispatch.mem_of_lookup hr)
    cases hm.symm.trans hm'
    obtain ⟨ha, rfl, moved⟩ := (h.each m (List.mem_of_getElem? hm)).turn pure hreply hok
    exact ⟨r.after, Dispatch.getElem?_afters_of_some hnow hr, ha, hflag, moved⟩
  refine ⟨?_, ?_, ?_⟩
  · refine eq_map_of_getElem? ?_ fun i m hm => ?_
    · rw [Dispatch.length_afters, length_aloneAll]
    · obtain ⟨r, hr, rfl, _⟩ := turned i m hm
      exact hr
  · refine eq_map_of_getElem? ?_ fun i m hm => ?_
    · rw [hflags, length_aloneAll]
    · obtain ⟨_, _, _, hflag, _⟩ := turned i m hm
      exact hflag
  · intro m hm
    obtain ⟨i, hi⟩ := List.mem_iff_getElem?.1 hm
    obtain ⟨_, _, _, _, moved⟩ := turned i m hi
    exact moved

/-- What the frame makes of members that have made their own next steps. -/
theorem Follows.concluded (h : Follows f o members k g) (d : EvaluationMap α) {flags : List Bool}
    (hflags : flags = members.map fun m => (alone o m (k + 1)).state.isTerminated)
    (moved : ∀ m ∈ members, Moved o m k)
    (committed : (({ g with map := d } : Frame α).conclude flags
      (members.map fun m => (alone o m (k + 1)).state)).result = .ok b) :
    Follows f o members (k + 1) (({ g with map := d } : Frame α).conclude flags
      (members.map fun m => (alone o m (k + 1)).state)).after := by
  obtain ⟨watch, status, ha⟩ := Frame.conclude_eq committed
  have lowest : g.state.bestEnergy = Double.infinity ∨
      ∃ es, Energy.IsLowest g.state.bestEnergy es ∧ List.Forall₂ Energy.NoWorse
        ((members.map fun m => (alone o m (k + 1)).state).map (·.bestEnergy)) es := by
    rcases Nat.eq_zero_or_pos k with first | pos
    · exact Or.inl (h.unknown first)
    · refine Or.inr ⟨_, (h.mirrors pos).best, ?_⟩
      rw [(h.mirrors pos).energies, List.map_map, List.map_map, List.forall₂_map_left_iff,
        List.forall₂_map_right_iff, List.forall₂_same]
      exact fun m hm => (moved m hm).best pos
  refine ⟨?_, ?_, ?_, ?_, fun m hm => (moved m hm).own, ?_, ?_, ?_⟩
  · rw [ha, ← h.generation]
    rfl
  · rw [ha, ← hflags]
    rfl
  · exact nofun
  · exact fun _ => Frame.mirrors_conclude committed lowest
  · rw [ha]
    exact h.fixed
  · intro hw
    exact Frame.watch_conclude (f := { g with map := d }) flags _ (h.unwatched hw)
  · intro hw hl
    rw [(Frame.conclude_frame _ _ _).2.1]
    exact Frame.reason_conclude (f := { g with map := d }) flags _ (h.unwatched hw)
      (h.fixed.2.2.trans hl)

/-- **One generation more**, in whatever order its members moved. -/
theorem Follows.step (h : Follows f o members k g) (pure : o.Pure) (d : EvaluationMap α)
    (going : g.state.isTerminated = false)
    (committed : ((Solver.ensemble { g with map := d } build
      (aloneAll o members k)).step o calls).1.result = .ok b) :
    ∃ g', ((Solver.ensemble { g with map := d } build
        (aloneAll o members k)).step o calls).1.after =
      .ensemble g' build (aloneAll o members (k + 1)) ∧ Follows f o members (k + 1) g' := by
  change (stepEnsemble { g with map := d } build (aloneAll o members k)
    (Solver.moves o (aloneAll o members k)) o calls).1.result = .ok b at committed
  show ∃ g', (stepEnsemble { g with map := d } build (aloneAll o members k)
    (Solver.moves o (aloneAll o members k)) o calls).1.after = _ ∧ _
  rcases hc : ({ g with map := d } : Frame α).checkReady o with e | u
  · rw [stepEnsemble_of_refused hc] at committed
    cases committed
  rcases hv : Dispatch.verdicts d.name (aloneAll o members k).length
      (reports g d o members k calls) with e | flags
  · rw [(stepEnsemble_of_verdicts_error build hc going hv).1] at committed
    cases committed
  obtain ⟨hres, hafter⟩ := stepEnsemble_of_verdicts_ok build hc going hv
  obtain ⟨hmembers, hflags, moved⟩ := h.turned pure d hv
  unfold reports at hmembers
  have hstates : (aloneAll o members (k + 1)).map state =
      members.map fun m => (alone o m (k + 1)).state := List.map_map ..
  rw [hres, hmembers, hstates] at committed
  rw [hafter, hmembers, hstates]
  exact ⟨_, rfl, h.concluded d hflags moved committed⟩

/-- Wherever generations lead, the members are as their steps alone left them. -/
theorem Driven.follows (run : Driven o (.ensemble f build members) k t)
    (started : Started f members) (separate : ∀ m ∈ members, m.Separate) (pure : o.Pure) :
    ∃ g, t = .ensemble g build (aloneAll o members k) ∧ Follows f o members k g := by
  induction run with
  | start => exact ⟨f, by rw [aloneAll, List.map_congr_left fun m _ => alone_zero o m, List.map_id'],
      started.follows separate o⟩
  | step d calls before going committed ih =>
      obtain ⟨g, rfl, h⟩ := ih
      exact h.step pure d going committed

/-! ## Generations that are committed -/

/-- Where all members are able to, every one of them answers: it makes a step that succeeds,
or rests. -/
theorem Follows.answered (h : Follows f o members k g) (pure : o.Pure)
    (able : ∀ m ∈ members, Able o m k) {d : EvaluationMap α}
    {p : Nat × Reply (Solver α) α Bool} (hp : p ∈ reports g d o members k calls) :
    ∃ m, members[p.1]? = some m ∧ p.2.result = .ok (alone o m (k + 1)).state.isTerminated := by
  obtain ⟨m, c, hm, hreply⟩ := h.of_mem_replies hp
  have own := h.each m (List.mem_of_getElem? hm)
  have same := own.separate.toIndependent.alone o k
  have ok : ∃ b, p.2.result = .ok b := by
    rw [hreply]
    cases ended : (alone o m k).state.isTerminated with
    | true => exact ⟨true, rfl⟩
    | false =>
        rcases able m (List.mem_of_getElem? hm) with finished | ⟨b, hb⟩
        · rw [ended] at finished
          cases finished
        · rw [if_neg Bool.false_ne_true, step_steady same.lone same.steady pure c 0]
          exact ⟨b, hb⟩
  obtain ⟨b, hb⟩ := ok
  obtain ⟨_, rfl, _⟩ := own.turn pure hreply hb
  exact ⟨m, hm, hb⟩

/-- Where all members are able to, a map that dispatches all of them gets all their
replies. -/
theorem Follows.verdicts (h : Follows f o members k g) (pure : o.Pure)
    (able : ∀ m ∈ members, Able o m k) (d : EvaluationMap α) (complete : d.Complete)
    (calls : Nat) :
    Dispatch.verdicts d.name (aloneAll o members k).length (reports g d o members k calls) =
      .ok (members.map fun m => (alone o m (k + 1)).state.isTerminated) := by
  have hturns : (turns g.stopped (aloneAll o members k)
      (Solver.moves o (aloneAll o members k))).length = (aloneAll o members k).length := by
    refine length_turns ?_ (length_moves o _)
    rw [h.stopped, List.length_map, length_aloneAll]
  refine Dispatch.verdicts_eq_ok (by rw [List.length_map, length_aloneAll]) ?_ ?_
  · intro p hp
    obtain ⟨m, _, hr⟩ := h.answered pure able hp
    exact ⟨_, hr⟩
  · intro i hi
    cases hr : (reports g d o members k calls).lookup i with
    | none =>
        have left := (Dispatch.lookup_run_eq_none_iff (hturns ▸ hi)).1 hr
        exact absurd (complete _ i (hturns ▸ hi)) left
    | some r =>
        obtain ⟨m, hm, hok⟩ := h.answered pure able (Dispatch.mem_of_lookup hr)
        refine ⟨r, _, rfl, hok, ?_⟩
        rw [List.getElem?_map, show members[i]? = some m from hm]
        rfl

/-- Where all members are able to, another generation is committed under any map that
dispatches all of them; only a criterion without an answer can prevent it. -/
theorem Follows.due (h : Follows f o members k g) (pure : o.Pure)
    (able : ∀ m ∈ members, Able o m k) (going : g.state.isTerminated = false)
    (arity : o.checkDimension f.dim = .ok ()) (d : EvaluationMap α) (complete : d.Complete)
    (calls : Nat) :
    (∃ b, ((Solver.ensemble { g with map := d } build
        (aloneAll o members k)).step o calls).1.result = .ok b) ∨
      f.watch ≠ none ∧ ∃ c, ((Solver.ensemble { g with map := d } build
        (aloneAll o members k)).step o calls).1.result = .error (.fault c) := by
  have hc : ({ g with map := d } : Frame α).checkReady o = .ok () :=
    Frame.checkReady_eq_ok_iff.2 ⟨h.fixed.1, h.fixed.2.1 ▸ arity⟩
  have result := (stepEnsemble_of_verdicts_ok (f := { g with map := d }) build hc going
    (h.verdicts pure able d complete calls)).1
  cases hr : ((Solver.ensemble { g with map := d } build
      (aloneAll o members k)).step o calls).1.result with
  | ok b => exact Or.inl ⟨b, rfl⟩
  | error e =>
      have failed := result.symm.trans hr
      obtain ⟨c, rfl⟩ := Frame.conclude_error failed
      refine Or.inr ⟨fun unwatched => ?_, c, rfl⟩
      have committed := (Frame.conclude_unwatched (f := { g with map := d })
        (members.map fun m => (alone o m (k + 1)).state.isTerminated)
        ((Dispatch.afters (aloneAll o members k) (reports g d o members k calls)).map state)
        (h.unwatched unwatched)).1
      cases committed.symm.trans failed

/-! ## The end of a run -/

variable {gs : List Nat}

/-- All members have stopped when the last of them has. -/
theorem Follows.all_stopped (h : Follows f o members k g) (pure : o.Pure)
    (stops : List.Forall₂ (StopsAt o) members gs) :
    g.stopped.all id = decide (gs.foldr max 0 ≤ k) := by
  have each := h.each
  rw [h.stopped, Bool.eq_iff_iff, decide_eq_true_iff, foldr_max_le_iff]
  clear h
  induction stops with
  | nil => simp
  | cons stop stops ih =>
      have own := (each _ List.mem_cons_self).separate
      have first := stop.isTerminated_iff own.toUnbegun own.toIndependent pure k
      have rest := ih fun m hm => each m (List.mem_cons_of_mem _ hm)
      rw [List.map_cons, List.all_cons, Bool.and_eq_true, rest, List.forall_mem_cons]
      exact and_congr_left fun _ => first

/-- Without criterion and limits the ensemble is not stopped while a member has not. -/
theorem Follows.reason (h : Follows f o members k g) (pure : o.Pure) (unwatched : f.watch = none)
    (uncapped : f.limits = .none) (stops : List.Forall₂ (StopsAt o) members gs) :
    g.state.reason? = if gs.foldr max 0 ≤ k then some "All members stopped" else none := by
  rw [h.ending unwatched uncapped, h.all_stopped pure stops]
  simp only [decide_eq_true_iff]

theorem Follows.isTerminated (h : Follows f o members k g) (pure : o.Pure)
    (unwatched : f.watch = none) (uncapped : f.limits = .none)
    (stops : List.Forall₂ (StopsAt o) members gs) :
    g.state.isTerminated = decide (gs.foldr max 0 ≤ k) := by
  show g.state.reason?.isSome = _
  rw [h.reason pure unwatched uncapped stops]
  by_cases hle : gs.foldr max 0 ≤ k
  · rw [if_pos hle, decide_eq_true hle]
    rfl
  · rw [if_neg hle, decide_eq_false hle]
    rfl

/-- No generation is committed after the one in which the last member stopped. -/
theorem Driven.le_of_stops (run : Driven o (.ensemble f build members) k t)
    (started : Started f members) (separate : ∀ m ∈ members, m.Separate) (pure : o.Pure)
    (unwatched : f.watch = none) (uncapped : f.limits = .none)
    (stops : List.Forall₂ (StopsAt o) members gs) : k ≤ gs.foldr max 0 := by
  cases run with
  | start => exact Nat.zero_le _
  | step d calls before going committed =>
      obtain ⟨g, rfl, h⟩ := before.follows started separate pure
      have before : g.state.isTerminated = false := going
      rw [h.isTerminated pure unwatched uncapped stops, decide_eq_false_iff_not] at before
      omega

/-- **An ensemble is its members run alone.**  Take an ensemble whose run is yet to begin, with
members that are solvers without members of their own, and step it on a pure objective,
each generation under any map, so in any order.

After `k` generations every member is as `k` steps alone leave it.  If it can be solved
alone, then it is where the steps up to its end leave it, it is told as stopped from that
generation on, and it rests then.  From the first generation on the ensemble mirrors its
members.  As long as all members are able to make their next steps or have stopped, another
generation is committed under any map that dispatches all of them, unless the ensemble has
stopped or its criterion has no answer.  Without criterion and limits it stops with the last
of its members, not before, and for that reason. -/
theorem ensemble_eq_members_alone (f : Frame α) (build : Builder α) (members : List (Solver α))
    (o : Objective α) (k : Nat) (t : Solver α) (started : Started f members)
    (separate : ∀ m ∈ members, m.Separate) (pure : o.Pure)
    (run : Driven o (.ensemble f build members) k t) :
    ∃ g, t = .ensemble g build (members.map fun m => alone o m k) ∧ g.state.generation = k ∧
      (0 < k → g.Mirrors (members.map fun m => (alone o m k).state)) ∧
      (∀ i m n, members[i]? = some m → StopsAt o m n →
        Able o m k ∧ alone o m k = alone o m (min k n) ∧
          g.stopped[i]? = some (decide (n ≤ k)) ∧
          (n ≤ k → ∀ d calls r, (reports g d o members k calls).lookup i = some r →
            r = .done (alone o m n) true [])) ∧
      ((∀ m ∈ members, Able o m k) → g.state.isTerminated = false →
        o.checkDimension f.dim = .ok () → ∀ (d : EvaluationMap α) (calls : Nat), d.Complete →
          (∃ b, ((t.setMap d).1.step o calls).1.result = .ok b) ∨
            f.watch ≠ none ∧ ∃ c, ((t.setMap d).1.step o calls).1.result = .error (.fault c)) ∧
      (f.watch = none → f.limits = .none → ∀ gs, List.Forall₂ (StopsAt o) members gs →
        k ≤ gs.foldr max 0 ∧
        g.state.reason? =
          if k = gs.foldr max 0 then some "All members stopped" else none) := by
  obtain ⟨g, rfl, h⟩ : ∃ g, t = .ensemble g build (aloneAll o members k) ∧
    Follows f o members k g := run.follows started separate pure
  refine ⟨g, rfl, h.generation, h.mirrors, ?_, ?_, ?_⟩
  · intro i m n hm stop
    have own := separate m (List.mem_of_getElem? hm)
    have ended := stop.isTerminated_iff own.toUnbegun own.toIndependent pure k
    refine ⟨stop.able own.toUnbegun own.toIndependent pure k, stop.alone_eq own.toUnbegun k,
      ?_, ?_⟩
    · rw [h.stopped, List.getElem?_map, hm, Option.map_some, Option.some_inj, Bool.eq_iff_iff,
        decide_eq_true_iff]
      exact ended
    · intro hle d calls r hr
      obtain ⟨m', c, hm', hreply⟩ := h.of_mem_replies (Dispatch.mem_of_lookup hr)
      cases hm.symm.trans hm'
      rw [if_pos (ended.2 hle), stop.alone_eq own.toUnbegun k, Nat.min_eq_right hle] at hreply
      exact hreply
  · intro able going arity d calls complete
    exact h.due pure able going arity d complete calls
  · intro unwatched uncapped gs stops
    have bound := run.le_of_stops started separate pure unwatched uncapped stops
    refine ⟨bound, ?_⟩
    rw [h.reason pure unwatched uncapped stops]
    by_cases hk : k = gs.foldr max 0
    · rw [if_pos hk, if_pos hk.ge]
    · rw [if_neg hk, if_neg (by omega)]

/-! ### Two members that stop one after the other -/

/-- A run of differential evolution of one generation. -/
def sprinter : Solver Float := oneMember.setLimits ⟨some 1, none⟩

/-- A compass search of two generations. -/
def walker : Solver Float :=
  .compass { Compass.standard 1 with
    state := .start ⟨1, [[3]]⟩
    steps := [1]
    limits := ⟨some 2, none⟩
    ready := true }

theorem sprinter_stopsAt : StopsAt (.ofFunction squares) sprinter 1 := by
  obtain ⟨_, solved⟩ := exists_ok_of_isOk
    (r := (sprinter.solve (fun _ => false) (.ofFunction squares) 0 none).1.result)
    (by decide +kernel)
  exact ⟨solved, by decide +kernel, by decide +kernel⟩

theorem walker_stopsAt : StopsAt (.ofFunction squares) walker 2 := by
  obtain ⟨_, solved⟩ := exists_ok_of_isOk
    (r := (walker.solve (fun _ => false) (.ofFunction squares) 0 none).1.result)
    (by decide +kernel)
  exact ⟨solved, by decide +kernel, by decide +kernel⟩

/-- The two of them. -/
def racers : List (Solver Float) := [sprinter, walker]

theorem racers_separate : ∀ m ∈ racers, m.Separate := by
  have steady : (EvaluationMap.serial : EvaluationMap Float).Steady :=
    EvaluationMap.serial_orderly.steady
  intro m hm
  rcases List.mem_cons.1 hm with rfl | hm
  · exact separate_evolution (fun _ h => Option.some.inj h ▸ steady) rfl rfl
  · obtain rfl := List.mem_singleton.1 hm
    exact separate_compass steady rfl rfl

/-- The two before their first generation. -/
def race : Solver Float := .ensemble pairFrame pairBuild racers

/-- The two after it, in which the last one moved first. -/
def raceOnce : Solver Float := ((race.setMap backward).1.step (.ofFunction squares) 0).1.after

/-- The two after the second generation, in which the first one has stopped. -/
def raceTwice : Solver Float := ((raceOnce.setMap .serial).1.step (.ofFunction squares) 8).1.after

/-- The ensemble of the two stops with the second one, when that one has made its second
step. -/
theorem ensemble_eq_members_alone_racers :
    ∃ g, raceTwice = .ensemble g pairBuild (racers.map fun m => alone (.ofFunction squares) m 2) ∧
      g.Mirrors (racers.map fun m => (alone (.ofFunction squares) m 2).state) ∧
      g.state.reason? = some "All members stopped" := by
  have started : Started pairFrame racers := ⟨rfl, nofun, rfl, rfl, rfl, rfl⟩
  have pure : (Objective.ofFunction squares).Pure := fun _ _ _ => rfl
  obtain ⟨_, first⟩ := exists_ok_of_isOk
    (r := ((race.setMap backward).1.step (.ofFunction squares) 0).1.result) (by decide +kernel)
  obtain ⟨_, second⟩ := exists_ok_of_isOk
    (r := ((raceOnce.setMap .serial).1.step (.ofFunction squares) 8).1.result) (by decide +kernel)
  have going : raceOnce.state.isTerminated = false := by decide +kernel
  have once : Driven (.ofFunction squares) race 1 raceOnce := .step backward 0 .start rfl first
  have run : Driven (.ofFunction squares) race 2 raceTwice := .step .serial 8 once going second
  have stops : List.Forall₂ (StopsAt (.ofFunction squares)) racers [1, 2] :=
    .cons sprinter_stopsAt (.cons walker_stopsAt .nil)
  obtain ⟨g, ht, _, mirrors, _, _, ends⟩ := ensemble_eq_members_alone pairFrame pairBuild racers
    (.ofFunction squares) 2 raceTwice started racers_separate pure run
  exact ⟨g, ht, mirrors (by decide), (ends rfl rfl [1, 2] stops).2⟩

end Solver
end BoxSearch

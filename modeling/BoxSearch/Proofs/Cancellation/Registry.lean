import BoxSearch.Cancellation
import BoxSearch.Proofs.Procedure
import Mathlib.Data.List.FinRange
import Mathlib.Data.Fintype.Basic

/-!
# The registry is exact

Many owners edit one list of entries in any order, each knowing no more than the identifier of
its own entry.  What holds the list together is `Interrupts.Exact`: the identifiers are different,
the entries are those of the enabled registrations, with the tokens that they were enabled with,
and the counter is ahead of all of them.

Which registrations are enabled, and with which tokens, is read off the history alone
(`Deed.hold`).  Every deed keeps the registry exact (`Exact.act`), hence so does every history
(`Exact.acts`), and what an interrupt does, or one registration to another, follows from that.
-/

namespace BoxSearch

/-! ## Enabling, line by line -/

/-- Enabling a registration as it is carried out: an identifier is drawn from the counter, the
entry is made, and the registration is told. -/
def Registry.enabling {τ : Type} (token : τ) : Procedure (Registry τ × Registration) Unit := do
  let (g, r) ← get
  if let .error message := g.handler then throw (.signalHandler message)
  if r.id.isNone then
    modify fun (now, r) => ({ now with nextId := g.nextId + 1 }, r)
    modify fun (now, r) => ({ now with entries := now.entries ++ [(g.nextId, token)] }, r)
    modify fun (now, _) => (now, ⟨some g.nextId⟩)

/-- A failed enabling has written nothing. -/
theorem Registry.perform_enabling {τ : Type} (g : Registry τ) (r : Registration) (token : τ) :
    (enabling token).perform (g, r) = Procedure.settle (g, r) (g.enable r token) := by
  obtain ⟨entries, nextId, handler⟩ := g
  obtain ⟨id⟩ := r
  cases handler <;> cases id <;> rfl

namespace Interrupts

variable {n : Nat}

/-! ## Histories -/

/-- What can be done to a group with `n` registrations. -/
inductive Deed (n : Nat) where
  /-- a registration is enabled with a token -/
  | enable (r : Fin n) (token : Nat)
  /-- a registration is disabled -/
  | disable (r : Fin n)
  /-- a registration is given up -/
  | drop (r : Fin n)
  /-- a token is raised by somebody -/
  | raise (token : Nat)
  /-- a token is lowered -/
  | reset (token : Nat)
  /-- an interrupt arrives -/
  | interrupt

namespace Deed

/-- Whether the counter of identifiers may move on. -/
def isEnable : Deed n → Bool
  | enable .. => true
  | _ => false

/-- The group after a deed. -/
def act (s : Interrupts) : Deed n → Interrupts
  | enable r token => (Procedure.settle s (s.enable r token)).2
  | disable r => s.disable r
  | drop r => s.drop r
  | raise token => { s with tokens := s.tokens.modify token CancelToken.cancel }
  | reset token => s.reset token
  | interrupt => s.interrupt

/-- The tokens with which registrations are enabled, after a deed: `handler` says whether anything
can be enabled at all, and a registration that is enabled already keeps its token. -/
def hold (handler : Except String Unit) (held : Fin n → Option Nat) :
    Deed n → Fin n → Option Nat
  | enable r token =>
    if handler.isOk && (held r).isNone then Function.update held r (some token) else held
  | disable r | drop r => Function.update held r none
  | raise _ | reset _ | interrupt => held

end Deed

/-- Tokens and fresh registrations, with an empty registry between them. -/
def start (n : Nat) (tokens : List CancelToken) (handler : Except String Unit) : Interrupts :=
  ⟨tokens, List.replicate n .fresh, .empty handler⟩

/-- The identifiers of the entries that the registrations know of. -/
def ids (n : Nat) (s : Interrupts) : Fin n → Option Nat :=
  fun r => (s.registrations.getD r .fresh).id

/-! ## The invariant -/

/-- A registry with one entry for each registration that is enabled, with the token that it is
enabled with, and with nothing else. -/
structure Exact (handler : Except String Unit) (held ids : Fin n → Option Nat)
    (g : Registry Nat) : Prop where
  handler : g.handler = handler
  nodup : (g.entries.map Prod.fst).Nodup
  mem_entries : ∀ id token, (id, token) ∈ g.entries ↔ ∃ r, ids r = some id ∧ held r = some token
  enabled : ∀ r, ids r = none ↔ held r = none
  apart : ∀ r r' id, ids r = some id → ids r' = some id → r = r'
  issued : ∀ r id, ids r = some id → id < g.nextId

namespace Exact

variable {handler : Except String Unit} {held ids : Fin n → Option Nat} {g : Registry Nat}

theorem empty (handler : Except String Unit) :
    Exact handler (fun _ : Fin n => none) (fun _ => none) (.empty handler) where
  handler := rfl
  nodup := List.nodup_nil
  mem_entries _ _ := iff_of_false List.not_mem_nil fun ⟨_, h, _⟩ => nomatch h
  enabled _ := .rfl
  apart _ _ _ h := nomatch h
  issued _ _ h := nomatch h

/-- An identifier that the counter has not reached belongs to nobody. -/
theorem unissued (h : Exact handler held ids g) : g.nextId ∉ g.entries.map Prod.fst := by
  intro taken
  obtain ⟨⟨i, token⟩, entry, rfl⟩ := List.mem_map.1 taken
  obtain ⟨r, hr, -⟩ := (h.mem_entries _ token).1 entry
  exact Nat.lt_irrefl _ (h.issued r _ hr)

/-- A new entry for a registration without one. -/
theorem enable (h : Exact handler held ids g) {r : Fin n} (new : ids r = none) (token : Nat) :
    Exact handler (Function.update held r (some token)) (Function.update ids r (some g.nextId))
      { g with entries := g.entries ++ [(g.nextId, token)], nextId := g.nextId + 1 } where
  handler := h.handler
  nodup := by
    rw [List.map_append, List.nodup_append]
    refine ⟨h.nodup, List.nodup_singleton _, fun i hi j hj => ?_⟩
    obtain rfl := List.mem_singleton.1 hj
    rintro rfl
    exact h.unissued hi
  mem_entries i token' := by
    rw [List.mem_append, List.mem_singleton, h.mem_entries]
    constructor
    · rintro (⟨r', hi, ht⟩ | last)
      · have other : r' ≠ r := by
          rintro rfl
          rw [new] at hi
          cases hi
        exact ⟨r', by rwa [Function.update_of_ne other], by rwa [Function.update_of_ne other]⟩
      · obtain ⟨rfl, rfl⟩ := Prod.mk.inj last
        exact ⟨r, Function.update_self .., Function.update_self ..⟩
    · rintro ⟨r', hi, ht⟩
      by_cases same : r' = r
      · subst same
        rw [Function.update_self] at hi ht
        exact .inr (Prod.ext (Option.some.inj hi).symm (Option.some.inj ht).symm)
      · rw [Function.update_of_ne same] at hi ht
        exact .inl ⟨r', hi, ht⟩
  enabled r' := by
    have := h.enabled r'
    grind [Function.update_apply]
  apart r₁ r₂ i h₁ h₂ := by
    have := h.apart r₁ r₂ i
    have := h.issued r₁ i
    have := h.issued r₂ i
    grind [Function.update_apply]
  issued r' i hi := by
    have := h.issued r' i
    grind [Function.update_apply]

/-- Without the entry of a registration. -/
theorem disable (h : Exact handler held ids g) {r : Fin n} {i : Nat} (known : ids r = some i) :
    Exact handler (Function.update held r none) (Function.update ids r none)
      { g with entries := g.entries.filter (·.1 ≠ i) } where
  handler := h.handler
  nodup := h.nodup.sublist (List.filter_sublist.map _)
  mem_entries i' token := by
    rw [List.mem_filter, h.mem_entries, decide_eq_true_iff]
    constructor
    · rintro ⟨⟨r', hi, ht⟩, other⟩
      have : r' ≠ r := by
        rintro rfl
        exact other (Option.some.inj (hi.symm.trans known))
      exact ⟨r', by rwa [Function.update_of_ne this], by rwa [Function.update_of_ne this]⟩
    · rintro ⟨r', hi, ht⟩
      have other : r' ≠ r := by
        rintro rfl
        rw [Function.update_self] at hi
        cases hi
      rw [Function.update_of_ne other] at hi ht
      exact ⟨⟨r', hi, ht⟩, fun same => other (h.apart r' r i (same ▸ hi) known)⟩
  enabled r' := by
    have := h.enabled r'
    grind [Function.update_apply]
  apart r₁ r₂ i h₁ h₂ := by
    have := h.apart r₁ r₂ i
    grind [Function.update_apply]
  issued r' i hi := by
    have := h.issued r' i
    grind [Function.update_apply]

/-- There is no entry for a registration that is not enabled. -/
theorem disabled (h : Exact handler held ids g) {r : Fin n} (unknown : ids r = none) :
    Function.update held r none = held := by
  rw [Function.update_eq_self_iff, (h.enabled r).1 unknown]

/-- The registry is, up to order, the list of the entries of the enabled registrations. -/
theorem perm_entries (h : Exact handler held ids g) :
    g.entries.Perm ((List.finRange n).filterMap fun r =>
      (ids r).bind fun i => (held r).map fun token => (i, token)) := by
  refine (List.perm_ext_iff_of_nodup h.nodup.of_map ?_).2 fun ⟨i, token⟩ => ?_
  · refine (List.nodup_finRange n).filterMap fun r r' e he he' => ?_
    obtain ⟨i, hi, h₁⟩ := Option.bind_eq_some_iff.1 he
    obtain ⟨i', hi', h₂⟩ := Option.bind_eq_some_iff.1 he'
    obtain ⟨token, -, rfl⟩ := Option.map_eq_some_iff.1 h₁
    obtain ⟨token', -, same⟩ := Option.map_eq_some_iff.1 h₂
    obtain ⟨rfl, -⟩ := Prod.mk.inj same
    exact h.apart r r' _ hi hi'
  · rw [h.mem_entries, List.mem_filterMap]
    simp [Option.bind_eq_some_iff]

end Exact

/-! ## Deeds -/

variable {s : Interrupts}

theorem set_getD (rs : List Registration) (r : Nat) : rs.set r (rs.getD r .fresh) = rs := by
  rw [List.getD_eq_getElem?_getD]
  cases place : rs[r]? with
  | none => exact List.set_eq_of_length_le (List.getElem?_eq_none_iff.1 place)
  | some x =>
      obtain ⟨inside, rfl⟩ := List.getElem?_eq_some_iff.1 place
      exact List.set_getElem_self inside

theorem ids_set (places : s.registrations.length = n) (r : Fin n) (g : Registry Nat)
    (x : Registration) :
    ids n { s with registry := g, registrations := s.registrations.set r x } =
      Function.update (s.ids n) r x.id := by
  funext r'
  have inside : r.val < s.registrations.length := by rw [places]; exact r.isLt
  unfold ids
  rw [List.getD_eq_getElem?_getD, List.getElem?_set]
  by_cases same : r' = r
  · rw [same, if_pos rfl, if_pos inside, Function.update_self, Option.getD_some]
  · rw [if_neg (Fin.val_ne_of_ne (Ne.symm same)), Function.update_of_ne same,
      List.getD_eq_getElem?_getD]

theorem enable_failed {message : String} (failed : s.registry.handler = .error message)
    (r token : Nat) : s.enable r token = .error (.signalHandler message) := by
  simp only [enable, Registry.enable, failed]
  rfl

theorem enable_again (installed : s.registry.handler = .ok ()) {r i : Nat}
    (known : (s.registrations.getD r .fresh).id = some i) (token : Nat) :
    s.enable r token = .ok s := by
  simp only [enable, Registry.enable, installed, known]
  exact congrArg (fun registrations => Except.ok { s with registrations })
    (set_getD s.registrations r)

theorem enable_first (installed : s.registry.handler = .ok ()) {r : Nat}
    (new : (s.registrations.getD r .fresh).id = none) (token : Nat) :
    s.enable r token = .ok { s with
      registry := { s.registry with
        entries := s.registry.entries ++ [(s.registry.nextId, token)]
        nextId := s.registry.nextId + 1 }
      registrations := s.registrations.set r ⟨some s.registry.nextId⟩ } := by
  simp only [enable, Registry.enable, installed, new]
  rfl

theorem disable_none {r : Nat} (unknown : (s.registrations.getD r .fresh).id = none) :
    s.disable r = s := by
  simp only [disable, Registry.disable, unknown]
  exact congrArg (fun registrations => { s with registrations }) (set_getD s.registrations r)

theorem disable_some {r i : Nat} (known : (s.registrations.getD r .fresh).id = some i) :
    s.disable r = { s with
      registry := { s.registry with entries := s.registry.entries.filter (·.1 ≠ i) }
      registrations := s.registrations.set r .fresh } := by
  simp only [disable, Registry.disable, known]
  rfl

/-- The registration that takes the place of a dropped one is as one that was disabled. -/
theorem drop_eq_disable (s : Interrupts) (r : Nat) : s.drop r = s.disable r := by
  show { s.disable r with registrations := (s.disable r).registrations.set r .fresh } = _
  cases h : (s.registrations.getD r .fresh).id with
  | none =>
      have same := set_getD s.registrations r
      rw [show s.registrations.getD r .fresh = .fresh from congrArg Registration.mk h] at same
      rw [disable_none h, same]
  | some i => rw [disable_some h, List.set_set]

/-- A group whose registry is exact. -/
structure Sound (handler : Except String Unit) (held : Fin n → Option Nat) (s : Interrupts) :
    Prop where
  places : s.registrations.length = n
  registry : Exact handler held (s.ids n) s.registry

namespace Sound

variable {handler : Except String Unit} {held : Fin n → Option Nat}

theorem start (n : Nat) (tokens : List CancelToken) (handler : Except String Unit) :
    Sound handler (fun _ : Fin n => none) (start n tokens handler) where
  places := List.length_replicate
  registry := by
    have fresh : (Interrupts.start n tokens handler).ids n = fun _ => none := by
      funext r
      simp [ids, Interrupts.start, Registration.fresh]
    rw [fresh]
    exact .empty handler

/-- The three ways in which enabling a registration can go. -/
theorem enable_cases (h : Sound handler held s) (r : Fin n) (token : Nat) :
    (∃ message, handler = .error message ∧ s.enable r token = .error (.signalHandler message)) ∨
      (handler = .ok () ∧ held r ≠ none ∧ s.enable r token = .ok s) ∨
      (handler = .ok () ∧ held r = none ∧ ∃ s', s.enable r token = .ok s' ∧
        Sound handler (Function.update held r (some token)) s') := by
  cases handler with
  | error message => exact .inl ⟨message, rfl, enable_failed h.registry.handler r token⟩
  | ok _ =>
      cases hr : s.ids n r with
      | none =>
          have made := h.registry.enable hr token
          rw [← ids_set h.places] at made
          exact .inr (.inr ⟨rfl, (h.registry.enabled r).1 hr, _,
            enable_first h.registry.handler hr token, (List.length_set ..).trans h.places, made⟩)
      | some i =>
          have kept : held r ≠ none := by
            rw [Ne, ← h.registry.enabled, hr]
            exact Option.some_ne_none i
          exact .inr (.inl ⟨rfl, kept, enable_again h.registry.handler hr token⟩)

theorem enable (h : Sound handler held s) (r : Fin n) (token : Nat) :
    Sound handler (Deed.hold handler held (.enable r token)) (Deed.act s (.enable r token)) := by
  simp only [Deed.act, Deed.hold]
  obtain ⟨message, rfl, hs⟩ | ⟨rfl, kept, hs⟩ | ⟨rfl, new, s', hs, made⟩ := h.enable_cases r token
  · rw [hs]
    exact h
  · rw [hs, Option.isNone_eq_false_iff.2 (Option.isSome_iff_ne_none.2 kept)]
    exact h
  · rw [hs, new]
    exact made

theorem disable (h : Sound handler held s) (r : Fin n) :
    Sound handler (Function.update held r none) (s.disable r) := by
  cases hr : s.ids n r with
  | none =>
      rw [disable_none hr, h.registry.disabled hr]
      exact h
  | some i =>
      rw [disable_some hr]
      refine ⟨(List.length_set ..).trans h.places, ?_⟩
      rw [ids_set h.places]
      exact h.registry.disable hr

/-- **Every deed keeps the registry exact.** -/
theorem act (h : Sound handler held s) (d : Deed n) :
    Sound handler (d.hold handler held) (d.act s) := by
  cases d with
  | enable r token => exact h.enable r token
  | disable r => exact h.disable r
  | drop r => exact (congrArg (Sound handler _) (drop_eq_disable s r)).mpr (h.disable r)
  | raise token => exact ⟨h.places, h.registry⟩
  | reset token => exact ⟨h.places, h.registry⟩
  | interrupt => exact ⟨h.places, h.registry⟩

/-- Every history keeps the registry exact. -/
theorem acts (h : Sound handler held s) (deeds : List (Deed n)) :
    Sound handler (deeds.foldl (Deed.hold handler) held) (deeds.foldl Deed.act s) := by
  induction deeds generalizing s held with
  | nil => exact h
  | cons d deeds ih => exact ih (h.act d)

end Sound

/-! ### The counter -/

theorem nextId_disable (s : Interrupts) (r : Nat) :
    (s.disable r).registry.nextId = s.registry.nextId := by
  cases h : (s.registrations.getD r .fresh).id with
  | none => rw [disable_none h]
  | some i => rw [disable_some h]

theorem nextId_act_le (s : Interrupts) (d : Deed n) :
    (d.act s).registry.nextId ≤ s.registry.nextId + if d.isEnable then 1 else 0 := by
  cases d with
  | enable r token =>
      show (Procedure.settle s (s.enable r token)).2.registry.nextId ≤ s.registry.nextId + 1
      cases installed : s.registry.handler with
      | error message =>
          rw [enable_failed installed]
          exact Nat.le_succ _
      | ok _ =>
          cases hr : (s.registrations.getD r .fresh).id with
          | none => rw [enable_first installed hr]; rfl
          | some i =>
              rw [enable_again installed hr]
              exact Nat.le_succ _
  | disable r => exact (nextId_disable s r).le
  | drop r => exact (nextId_disable s r).le
  | raise token => exact Nat.le_refl _
  | reset token => exact Nat.le_refl _
  | interrupt => exact Nat.le_refl _

/-- The counter moves on by one at most each time a registration is enabled. -/
theorem nextId_acts_le (s : Interrupts) (deeds : List (Deed n)) :
    (deeds.foldl Deed.act s).registry.nextId ≤ s.registry.nextId + deeds.countP Deed.isEnable := by
  induction deeds generalizing s with
  | nil => exact Nat.le_refl _
  | cons d deeds ih =>
      have step := nextId_act_le s d
      have rest := ih (d.act s)
      rw [List.foldl_cons, List.countP_cons]
      omega

/-! ### Interrupts -/

/-- Raising the tokens at some places raises these and no others. -/
theorem getElem?_foldl_cancel (places : List Nat) (tokens : List CancelToken) (j : Nat) :
    (places.foldl (fun ts i => ts.modify i CancelToken.cancel) tokens)[j]? =
      if j ∈ places then tokens[j]?.map CancelToken.cancel else tokens[j]? := by
  induction places generalizing tokens with
  | nil => rfl
  | cons i places ih =>
      rw [List.foldl_cons, ih, List.getElem?_modify]
      -- a token that is raised twice is as one that is raised once
      have twice (t : Option CancelToken) :
          (t.map CancelToken.cancel).map CancelToken.cancel = t.map CancelToken.cancel := by
        cases t <;> rfl
      by_cases here : i = j
      · subst here
        simp [twice]
      · simp [here, Ne.symm here]

/-- An interrupt raises the tokens of the enabled registrations, and no others. -/
theorem Sound.tokens_interrupt {handler : Except String Unit} {held : Fin n → Option Nat}
    (h : Sound handler held s) (j : Nat) :
    s.interrupt.tokens[j]? =
      if ∃ r, held r = some j then s.tokens[j]?.map CancelToken.cancel else s.tokens[j]? := by
  have among : j ∈ s.registry.tokens ↔ ∃ r, held r = some j := by
    constructor
    · intro hj
      obtain ⟨⟨i, token⟩, entry, rfl⟩ := List.mem_map.1 hj
      obtain ⟨r, -, ht⟩ := (h.registry.mem_entries i token).1 entry
      exact ⟨r, ht⟩
    · rintro ⟨r, hr⟩
      cases hi : s.ids n r with
      | none =>
          rw [(h.registry.enabled r).1 hi] at hr
          cases hr
      | some i => exact List.mem_map_of_mem ((h.registry.mem_entries i j).2 ⟨r, hi, hr⟩)
  have raised := getElem?_foldl_cancel s.registry.tokens s.tokens j
  simp only [among] at raised
  exact raised

/-! ### One registration and the others -/

/-- Disabling a registration leaves the others with their entries. -/
theorem Sound.disable_others {handler : Except String Unit} {held : Fin n → Option Nat}
    (h : Sound handler held s) {r r' : Fin n} (other : r' ≠ r) :
    (s.disable r).ids n r' = s.ids n r' ∧
      ∀ i token, s.ids n r' = some i →
        ((i, token) ∈ (s.disable r).registry.entries ↔ (i, token) ∈ s.registry.entries) := by
  cases hr : s.ids n r with
  | none =>
      rw [disable_none hr]
      exact ⟨rfl, fun _ _ _ => .rfl⟩
  | some i =>
      rw [disable_some hr]
      constructor
      · rw [ids_set h.places, Function.update_of_ne other]
      · intro i' token known
        have apart : i' ≠ i := by
          rintro rfl
          exact other (h.registry.apart r' r i' known hr)
        rw [List.mem_filter, decide_eq_true_iff]
        exact and_iff_left apart

/-- Enabling a registration again, with whatever token, changes nothing. -/
theorem Sound.enable_twice {handler : Except String Unit} {held : Fin n → Option Nat}
    (h : Sound handler held s) {s' : Interrupts} {r : Fin n} {token : Nat}
    (hs : s.enable r token = .ok s') (token' : Nat) :
    s'.enable r token' = .ok s' ∧ (held r ≠ none → s' = s) := by
  -- once a registration is enabled, there is only one way left
  have settled {held : Fin n → Option Nat} {s : Interrupts} (h : Sound handler held s)
      (installed : handler = .ok ()) (kept : held r ≠ none) : s.enable r token' = .ok s := by
    obtain ⟨message, failed, _⟩ | ⟨-, -, again⟩ | ⟨-, new, _⟩ := h.enable_cases r token'
    · rw [installed] at failed
      cases failed
    · exact again
    · exact absurd new kept
  obtain ⟨message, _, failed⟩ | ⟨installed, kept, same⟩ | ⟨installed, new, after, made, sound⟩ :=
    h.enable_cases r token
  · rw [failed] at hs
    cases hs
  · rw [same] at hs
    cases hs
    exact ⟨settled h installed kept, fun _ => rfl⟩
  · rw [made] at hs
    cases hs
    refine ⟨settled sound installed ?_, fun kept => absurd new kept⟩
    rw [Function.update_self]
    exact Option.some_ne_none token

/-! ## The theorem -/

/-- **The registry is exact.**  Take any number of registrations, any tokens, a handler of
interrupts that can be installed or cannot, and any history.  Then the registry has one entry for
each registration that is enabled, with the token that it was enabled with, and nothing else; the
identifiers are different, and none is larger than the number of times that something was enabled.
An interrupt raises the tokens of the enabled registrations and no others, enabling a
registration again changes nothing, disabling or giving up one leaves the others and their entries
alone, and enabling fails if and only if the handler cannot be installed, and then has written
nothing. -/
theorem registry_exact (tokens : List CancelToken) (handler : Except String Unit)
    (deeds : List (Deed n)) :
    let s := deeds.foldl Deed.act (start n tokens handler)
    let held : Fin n → Option Nat := deeds.foldl (Deed.hold handler) fun _ => none
    (∀ r : Fin n, (s.registrations.getD r .fresh).isEnabled = (held r).isSome) ∧
    s.registry.entries.Perm ((List.finRange n).filterMap fun r =>
      (s.ids n r).bind fun i => (held r).map fun token => (i, token)) ∧
    (s.registry.entries.map Prod.fst).Nodup ∧
    (∀ e ∈ s.registry.entries, e.1 ≤ deeds.countP Deed.isEnable) ∧
    (∀ j, s.interrupt.tokens[j]? =
      if ∃ r, held r = some j then s.tokens[j]?.map CancelToken.cancel else s.tokens[j]?) ∧
    (∀ (r : Fin n) (token token' : Nat) (s' : Interrupts), s.enable r token = .ok s' →
      s'.enable r token' = .ok s' ∧ (held r ≠ none → s' = s)) ∧
    (∀ r r' : Fin n, r' ≠ r → ∀ s' ∈ [s.disable r, s.drop r],
      s'.tokens = s.tokens ∧ s'.ids n r' = s.ids n r' ∧
      ∀ i token, s.ids n r' = some i →
        ((i, token) ∈ s'.registry.entries ↔ (i, token) ∈ s.registry.entries)) ∧
    ∀ (r : Fin n) (token : Nat),
      ((s.enable r token).isOk = handler.isOk) ∧
      (Registry.enabling token).perform (s.registry, s.registrations.getD r .fresh) =
        Procedure.settle (s.registry, s.registrations.getD r .fresh)
          (s.registry.enable (s.registrations.getD r .fresh) token) := by
  intro s held
  have h : Sound handler held s := (Sound.start n tokens handler).acts deeds
  refine ⟨fun r => ?_, h.registry.perm_entries, h.registry.nodup, fun e he => ?_,
    h.tokens_interrupt, fun r token token' s' hs => h.enable_twice hs token', ?_,
    fun r token => ⟨?_, Registry.perform_enabling _ _ token⟩⟩
  · have known := h.registry.enabled r
    rw [← not_iff_not, ← Ne, ← Ne, ← Option.isSome_iff_ne_none,
      ← Option.isSome_iff_ne_none] at known
    exact Bool.eq_iff_iff.2 known
  · obtain ⟨r, hr, -⟩ := (h.registry.mem_entries e.1 e.2).1 he
    have issued := h.registry.issued r e.1 hr
    have counted : s.registry.nextId ≤ 1 + deeds.countP Deed.isEnable := nextId_acts_le _ deeds
    omega
  · intro r r' other
    rw [drop_eq_disable, List.forall_mem_cons, List.forall_mem_singleton, and_self]
    exact ⟨rfl, h.disable_others other⟩
  · obtain ⟨message, rfl, hs⟩ | ⟨rfl, -, hs⟩ | ⟨rfl, -, s', hs, -⟩ := h.enable_cases r token
    all_goals
      rw [hs]
      rfl

end Interrupts
end BoxSearch

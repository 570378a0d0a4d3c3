import BoxSearch.Event

/-!
# Requests to stop

A `CancelToken` carries the request that a run should stop.  Anybody may raise it,
and a solver takes it between two generations, which lowers it again.

An interrupt of the process raises many tokens at once.  A solver that wants to be
stopped by interrupts has a `Registration`; while it is enabled, the `Registry` of the
process has one entry for it, with the token it was enabled with.  Identifiers of
entries are never used again, so taking one entry out leaves the others alone.

`Interrupts` is a group of tokens and registrations with the registry between them.
-/

namespace BoxSearch

/-! ## Tokens -/

/-- A request to stop, raised or not. -/
structure CancelToken where
  /-- the request is raised -/
  cancelled : Bool
  deriving DecidableEq, Repr

namespace CancelToken

/-- No request. -/
def fresh : CancelToken := ⟨false⟩

/-- Raises the request. -/
def cancel (_ : CancelToken) : CancelToken := ⟨true⟩

/-- Lowers the request. -/
def reset (_ : CancelToken) : CancelToken := ⟨false⟩

/-- Reads the request and lowers it. -/
def take (t : CancelToken) : Bool × CancelToken := (t.cancelled, t.reset)

end CancelToken

/-! ## The registry -/

/-- The entry of a solver in the registry, if it has one. -/
structure Registration where
  /-- the identifier of the entry -/
  id : Option Nat
  deriving DecidableEq, Repr

namespace Registration

/-- A registration without an entry. -/
def fresh : Registration := ⟨none⟩

/-- Whether there is an entry. -/
def isEnabled (r : Registration) : Bool := r.id.isSome

end Registration

/-- The tokens that an interrupt raises, each under an identifier. -/
structure Registry (τ : Type) where
  /-- the entries, in the order in which they were made -/
  entries : List (Nat × τ)
  /-- the next identifier -/
  nextId : Nat
  /-- whether the handler of interrupts can be installed, and why not -/
  handler : Except String Unit

namespace Registry

variable {τ : Type}

/-- The registry of a process at its start. -/
def empty (handler : Except String Unit) : Registry τ := ⟨[], 1, handler⟩

/-- Makes an entry for a token, unless the registration has one already. -/
def enable (g : Registry τ) (r : Registration) (token : τ) :
    Except SolverError (Registry τ × Registration) :=
  match g.handler with
  | .error message => .error (.signalHandler message)
  | .ok _ =>
    match r.id with
    | some _ => .ok (g, r)
    | none =>
      .ok ({ g with entries := g.entries ++ [(g.nextId, token)], nextId := g.nextId + 1 },
        ⟨some g.nextId⟩)

/-- Takes the entry of a registration out. -/
def disable (g : Registry τ) (r : Registration) : Registry τ × Registration :=
  match r.id with
  | some id => ({ g with entries := g.entries.filter (·.1 ≠ id) }, ⟨none⟩)
  | none => (g, r)

/-- The tokens that an interrupt raises now. -/
def tokens (g : Registry τ) : List τ := g.entries.map (·.2)

/-- What the handler reports when an interrupt arrives. -/
def report {α : Type} (g : Registry τ) : Event α := .log (.interrupted g.entries.length)

end Registry

/-! ## Tokens and registrations together -/

/-- A group of tokens and registrations; the registry knows tokens by their places. -/
structure Interrupts where
  /-- the tokens -/
  tokens : List CancelToken
  /-- the registrations -/
  registrations : List Registration
  /-- the registry -/
  registry : Registry Nat

namespace Interrupts

/-- Fresh tokens and as many fresh registrations. -/
def fresh (n : Nat) : Interrupts :=
  ⟨List.replicate n .fresh, List.replicate n .fresh, .empty (.ok ())⟩

/-- Enables a registration with a token. -/
def enable (s : Interrupts) (registration token : Nat) : Except SolverError Interrupts := do
  let r := s.registrations.getD registration .fresh
  let (registry, r) ← s.registry.enable r token
  .ok { s with registry, registrations := s.registrations.set registration r }

/-- Disables a registration. -/
def disable (s : Interrupts) (registration : Nat) : Interrupts :=
  let r := s.registrations.getD registration .fresh
  let (registry, r) := s.registry.disable r
  { s with registry, registrations := s.registrations.set registration r }

/-- Gives a registration up; a fresh one takes its place. -/
def drop (s : Interrupts) (registration : Nat) : Interrupts :=
  let s := s.disable registration
  { s with registrations := s.registrations.set registration .fresh }

/-- Lowers a token. -/
def reset (s : Interrupts) (token : Nat) : Interrupts :=
  { s with tokens := s.tokens.modify token CancelToken.reset }

/-- Raises the token of every entry. -/
def interrupt (s : Interrupts) : Interrupts :=
  { s with tokens := s.registry.tokens.foldl (fun ts i => ts.modify i CancelToken.cancel) s.tokens }

end Interrupts

end BoxSearch

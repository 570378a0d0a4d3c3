import BoxSearch.Proofs.Ensemble.Dispatch
import Mathlib.Data.List.Forall2

/-!
# Two generations whose members agree

Two replies agree when they have the same result and report the same events, and the
solvers after them are related.  When the moves of two lists of members agree one by one,
then so does everything that a generation makes of them: the replies in the order in which
a map dispatches them (`run_agree`), the verdicts (`verdicts_agree`), the events
(`events_agree`), and the members afterwards (`afters_agree`).

The numbers of evaluations made before have no part in this; a move that agrees with
another one does so whatever they are.
-/

namespace BoxSearch

variable {σ τ α ρ : Type}

/-! ## Replies -/

/-- Two replies say the same of solvers that are related afterwards. -/
structure Reply.Agree (R : σ → σ → Prop) (r r' : Reply σ α ρ) : Prop where
  result : r'.result = r.result
  events : r'.events = r.events
  after : R r.after r'.after

namespace Reply.Agree

variable {R : σ → σ → Prop} {S : τ → τ → Prop} {r r' : Reply σ α ρ}

theorem lift (h : r.Agree R r') {f g : σ → τ}
    (hf : R r.after r'.after → S (f r.after) (g r'.after)) :
    (r.lift f).Agree S (r'.lift g) :=
  ⟨h.result, h.events, hf h.after⟩

theorem preceded (h : r.Agree R r') (events : List (Event α)) :
    (r.preceded events).Agree R (r'.preceded events) :=
  ⟨h.result, congrArg (events ++ ·) h.events, h.after⟩

end Reply.Agree

namespace Dispatch

variable {R : σ → σ → Prop} {moves moves' : List (Move σ α)} {members members' : List σ}
variable {replies replies' : List (Nat × Reply σ α Bool)}

/-- Two moves agree whatever was evaluated before. -/
def MovesAgree (R : σ → σ → Prop) (move move' : Move σ α) : Prop :=
  ∀ calls calls', (move calls).1.Agree R (move' calls').1

/-- The replies of two generations are those of the same members, and they agree. -/
def RepliesAgree (R : σ → σ → Prop) (replies replies' : List (Nat × Reply σ α Bool)) : Prop :=
  List.Forall₂ (fun p p' => p.1 = p'.1 ∧ p.2.Agree R p'.2) replies replies'

theorem rest_agree {a b : σ} (h : R a b) : MovesAgree (α := α) R (rest a) (rest b) :=
  fun _ _ => ⟨rfl, rfl, h⟩

/-! ## What a map makes of the moves -/

/-- Lists that are related one by one have related entries at each place. -/
theorem getElem?_rel {β γ : Type} {Q : β → γ → Prop} {xs : List β} {ys : List γ}
    (h : List.Forall₂ Q xs ys) (i : Nat) : Option.Rel Q xs[i]? ys[i]? := by
  induction h generalizing i with
  | nil => exact .none
  | cons hq _ ih =>
      cases i with
      | zero => exact .some hq
      | succ i => exact ih i

theorem runAll_agree (h : List.Forall₂ (MovesAgree R) moves moves') (order : List Nat)
    (calls calls' : Nat) :
    RepliesAgree R (runAll moves order calls).1 (runAll moves' order calls').1 := by
  induction order generalizing calls calls' with
  | nil => exact .nil
  | cons i order ih =>
      have hi := getElem?_rel h i
      simp only [runAll]
      generalize moves[i]? = move, moves'[i]? = move' at hi ⊢
      cases hi with
      | none => exact ih calls calls'
      | some agree => exact .cons ⟨rfl, agree calls calls'⟩ (ih _ _)

theorem run_agree (map : EvaluationMap α) (h : List.Forall₂ (MovesAgree R) moves moves')
    (calls calls' : Nat) :
    RepliesAgree R (run map moves calls).1 (run map moves' calls').1 := by
  unfold run
  rw [← h.length_eq]
  exact runAll_agree h _ calls calls'

/-! ## What an ensemble makes of the replies -/

theorem lookup_agree (h : RepliesAgree R replies replies') (i : Nat) :
    Option.Rel (Reply.Agree R) (replies.lookup i) (replies'.lookup i) := by
  induction h with
  | nil => exact .none
  | @cons p p' _ _ hp _ ih =>
      rw [List.lookup_cons, List.lookup_cons, ← hp.1]
      cases i == p.1 with
      | true => exact .some hp.2
      | false => exact ih

theorem fault?_agree (h : RepliesAgree R replies replies') : fault? replies' = fault? replies := by
  induction h with
  | nil => rfl
  | cons hp _ ih =>
      unfold fault? at ih ⊢
      simp only [List.findSome?_cons, ih, hp.2.result]

theorem outcome_agree (name : String) (h : RepliesAgree R replies replies') (i : Nat) :
    outcome name replies' i = outcome name replies i := by
  have hi := lookup_agree h i
  unfold outcome
  generalize replies.lookup i = answer, replies'.lookup i = answer' at hi ⊢
  cases hi with
  | none => rfl
  | some agree => exact agree.result

/-- The verdicts on members that agree are the same. -/
theorem verdicts_agree (name : String) (count : Nat) (h : RepliesAgree R replies replies') :
    verdicts name count replies' = verdicts name count replies := by
  unfold verdicts
  rw [fault?_agree h, funext (outcome_agree name h)]

/-- So is what they report. -/
theorem events_agree (h : RepliesAgree R replies replies') : events replies' = events replies := by
  have hs : replies'.flatMap (·.2.events) = replies.flatMap (·.2.events) := by
    induction h with
    | nil => rfl
    | cons hp _ ih => rw [List.flatMap_cons, List.flatMap_cons, ih, hp.2.events]
  rw [events, events, hs]

/-- And the members are related afterwards, those that were left out included. -/
theorem afters_agree (hm : List.Forall₂ R members members') (h : RepliesAgree R replies replies') :
    List.Forall₂ R (afters members replies) (afters members' replies') := by
  refine List.forall₂_iff_get.2 ⟨by simp [hm.length_eq], fun i hi hi' => ?_⟩
  rw [length_afters] at hi hi'
  have related := (List.forall₂_iff_get.1 hm).2 i hi hi'
  have answered := lookup_agree h i
  simp only [afters, List.get_eq_getElem, List.getElem_mapIdx] at related ⊢
  generalize replies.lookup i = answer, replies'.lookup i = answer' at answered ⊢
  cases answered with
  | none => exact related
  | some agree => exact agree.after

end Dispatch
end BoxSearch

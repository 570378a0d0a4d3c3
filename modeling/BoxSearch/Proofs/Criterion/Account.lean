import BoxSearch.Proofs.Criterion.Asking

/-!
# What a watch can say for itself

When a criterion has stopped a run it is asked why.  By then it does not look at the state any
more: an `any` node speaks through the member it noted, and an `all` node through all its
members.

Here the reason is found in another way, from the tree and the state, without asking and without
notes.  Every `any` node gives way to the leftmost of its members that is true of the state,
every `all` node keeps all its members, and what is left is an `Account`: a tree of tests, all
of which are true of the state.

* `Watch.account?` — the account of a watch, if the watch is true of the state;
* `account?_text` — asked about the state, a watch answers with a stop exactly when it has an
  account, and the reason it gives afterwards is the text of the account;
* `account?_any`, `account?_all` — which members are in it, in terms of what they answer;
* `tests_account?` — the tests of an account are among those that are put to the question when
  the watch is asked, and they answer with a stop.
-/

namespace BoxSearch

variable {α : Type} [Scalar α]

/-- Whether a test with its memory is true of a state. -/
def Test.fires (s : State α) (l : Test × Memory) : Bool := (l.1.look s l.2).1

/-! ## Accounts -/

/-- Why a run is to be stopped: a test that says so, with what it remembered when it was asked,
or several accounts that say so together. -/
inductive Account where
  /-- a single test -/
  | test (t : Test) (m : Memory)
  /-- all the parts -/
  | all (parts : List Account)

namespace Account

mutual

/-- An account in words. -/
def text : Account → String
  | .test t _ => t.reason
  | .all parts => " and ".intercalate (texts parts)

/-- Several accounts in words. -/
def texts : List Account → List String
  | [] => []
  | a :: as => text a :: texts as

end

mutual

/-- The tests of an account, from left to right. -/
def tests : Account → List (Test × Memory)
  | .test t m => [(t, m)]
  | .all parts => testsAll parts

/-- The tests of several accounts, one after the other. -/
def testsAll : List Account → List (Test × Memory)
  | [] => []
  | a :: as => tests a ++ testsAll as

end

end Account

namespace Watch

mutual

/-- Why a watch would stop the run in a state, if it would: the leftmost member of an `any` node
that would, and all members of an `all` node, of which there is at least one.  The notes of the
nodes are not looked at. -/
def account? (s : State α) : Watch → Option Account
  | .test t m => if Test.fires s (t, m) then some (.test t m) else none
  | .any members _ => accountAny? s members
  | .all members => if members.isEmpty then none else (accountAll? s members).map .all

/-- The account of the leftmost of several watches that has one. -/
def accountAny? (s : State α) : List Watch → Option Account
  | [] => none
  | w :: ws => (account? s w).or (accountAny? s ws)

/-- The accounts of several watches, if all of them have one. -/
def accountAll? (s : State α) : List Watch → Option (List Account)
  | [] => some []
  | w :: ws =>
    match account? s w with
    | some a => (accountAll? s ws).map (a :: ·)
    | none => none

end

/-! ## What is said -/

mutual

/-- **A watch gives its account**: asked about a state it answers with a stop exactly when it
has an account, and its reason is the text of the account. -/
theorem account?_text (s : State α) : ∀ w : Watch,
    (w.account? s).map Account.text = if (w.ask s).1 then some (w.ask s).2.reason else none
  | .test t m => by
      cases ha : (t.look s m).1 <;> simp [account?, Test.fires, ask, ha, Account.text, reason]
  | .any members _ => by
      rw [account?, accountAny?_text s 0 members]
      rcases hx : askAny s 0 members with ⟨fired, asked⟩
      simp only [ask, reason, hx]
      cases fired <;> rfl
  | .all [] => rfl
  | .all (w :: ws) => by
      have said := accountAll?_texts s (w :: ws)
      simp only [account?, ask, reason, List.isEmpty_cons, Bool.not_false, Bool.true_and,
        Bool.false_eq_true, if_false]
      cases ha : (askAll s (w :: ws)).1 with
      | true =>
          rw [ha, if_pos rfl] at said
          obtain ⟨parts, hparts, htexts⟩ := Option.map_eq_some_iff.1 said
          simp only [hparts, Option.map_some, Account.text, htexts, if_true]
      | false =>
          rw [ha, if_neg Bool.false_ne_true] at said
          simp only [Option.map_eq_none_iff.1 said, Option.map_none, Bool.false_eq_true, if_false]

theorem accountAny?_text (s : State α) (i : Nat) : ∀ ws : List Watch,
    (accountAny? s ws).map Account.text =
      (askAny s i ws).1.map fun k => reasonAt (k - i) (askAny s i ws).2
  | [] => rfl
  | w :: ws => by
      have first := account?_text s w
      have others := accountAny?_text s (i + 1) ws
      rw [accountAny?]
      cases ha : (w.ask s).1 with
      | true =>
          rw [ha, if_pos rfl] at first
          obtain ⟨a, h, said⟩ := Option.map_eq_some_iff.1 first
          simp [h, said, askAny, ha, reasonAt]
      | false =>
          rw [ha, if_neg Bool.false_ne_true] at first
          simp only [Option.map_eq_none_iff.1 first, Option.none_or, others, askAny, ha,
            Bool.false_eq_true, if_false]
          cases hk : (askAny s (i + 1) ws).1 with
          | none => rfl
          | some k =>
              -- the place is counted from the second member on
              have hle := le_of_askAny hk
              rw [Option.map_some, Option.map_some, show k - i = k - (i + 1) + 1 by omega, reasonAt]

theorem accountAll?_texts (s : State α) : ∀ ws : List Watch,
    (accountAll? s ws).map Account.texts =
      if (askAll s ws).1 then some (reasons (askAll s ws).2) else none
  | [] => rfl
  | w :: ws => by
      have first := account?_text s w
      have others := accountAll?_texts s ws
      cases ha : (w.ask s).1 with
      | true =>
          rw [ha, if_pos rfl] at first
          obtain ⟨a, h, said⟩ := Option.map_eq_some_iff.1 first
          simp only [accountAll?, h, askAll, ha, if_true, reasons]
          cases hall : (askAll s ws).1 with
          | true =>
              rw [hall, if_pos rfl] at others
              obtain ⟨as, has, rest⟩ := Option.map_eq_some_iff.1 others
              simp only [has, Option.map_some, Account.texts, said, rest, if_true]
          | false =>
              rw [hall, if_neg Bool.false_ne_true] at others
              simp only [Option.map_eq_none_iff.1 others, Option.map_none, Bool.false_eq_true,
                if_false]
      | false =>
          rw [ha, if_neg Bool.false_ne_true] at first
          simp only [accountAll?, Option.map_eq_none_iff.1 first, Option.map_none, askAll, ha,
            Bool.false_eq_true, if_false]

end

/-- A watch is true of a state, and has an account, when it answers with a stop. -/
theorem isSome_account? (s : State α) (w : Watch) : (w.account? s).isSome = (w.ask s).1 := by
  rw [← Option.isSome_map, account?_text]
  cases (w.ask s).1 <;> rfl

theorem account?_of_not_stop {s : State α} {w : Watch} (h : (w.ask s).1 = false) :
    w.account? s = none := by
  rw [← Option.not_isSome_iff_eq_none, isSome_account?, h]
  exact Bool.false_ne_true

theorem stop_of_account? {s : State α} {w : Watch} {a : Account} (h : w.account? s = some a) :
    (w.ask s).1 = true := by
  rw [← isSome_account?, h]
  rfl

/-! ## Who speaks -/

/-- **The account of an `any` node** is that of its leftmost member that answers with a stop. -/
theorem account?_any (s : State α) (members : List Watch) (fired : Option Nat) :
    (Watch.any members fired).account? s =
      (members.find? fun w => (w.ask s).1).bind (account? s) := by
  rw [account?]
  induction members with
  | nil => rfl
  | cons w ws ih =>
      rw [accountAny?, ih, List.find?_cons]
      cases ha : (w.ask s).1 with
      | true =>
          obtain ⟨a, h⟩ := Option.isSome_iff_exists.1 ((isSome_account? s w).trans ha)
          simp only [h, Option.some_or, Option.bind_some]
      | false => rw [account?_of_not_stop ha, Option.none_or]

theorem accountAll?_eq (s : State α) (ws : List Watch) :
    accountAll? s ws =
      if ws.all fun w => (w.ask s).1 then some (ws.filterMap (account? s)) else none := by
  induction ws with
  | nil => rfl
  | cons w ws ih =>
      rw [accountAll?, ih, List.all_cons]
      cases ha : (w.ask s).1 with
      | true =>
          obtain ⟨a, h⟩ := Option.isSome_iff_exists.1 ((isSome_account? s w).trans ha)
          rw [h, Bool.true_and, List.filterMap_cons_some h]
          cases ws.all fun w => (w.ask s).1 <;> rfl
      | false => rw [account?_of_not_stop ha, Bool.false_and, if_neg Bool.false_ne_true]

/-- **The account of an `all` node** is made of the accounts of all its members, if there are
members and all of them answer with a stop. -/
theorem account?_all (s : State α) (members : List Watch) :
    (Watch.all members).account? s =
      if !members.isEmpty && members.all fun w => (w.ask s).1 then
        some (.all (members.filterMap (account? s))) else none := by
  rw [account?, accountAll?_eq]
  cases members.isEmpty <;> cases members.all fun w => (w.ask s).1 <;> rfl

/-! ## Who was asked -/

mutual

/-- The tests that are asked when a watch is asked, from left to right, each with what it
remembers before. -/
def questioned (s : State α) : Watch → List (Test × Memory)
  | .test t m => [(t, m)]
  | .any members _ => questionedAny s members
  | .all members => questionedAll s members

/-- The tests that are asked when members are asked up to the first that fires. -/
def questionedAny (s : State α) : List Watch → List (Test × Memory)
  | [] => []
  | w :: ws => questioned s w ++ if (ask s w).1 then [] else questionedAny s ws

/-- The tests that are asked when members are asked up to the first that does not fire. -/
def questionedAll (s : State α) : List Watch → List (Test × Memory)
  | [] => []
  | w :: ws => questioned s w ++ if (ask s w).1 then questionedAll s ws else []

end

mutual

/-- **The tests of an account were asked**, and answered with a stop. -/
theorem tests_account? (s : State α) : ∀ (w : Watch) (a : Account), w.account? s = some a →
    a.tests.Sublist ((w.questioned s).filter (Test.fires s))
  | .test t m, a, h => by
      rw [account?] at h
      split at h
      next fires =>
        cases h
        rw [questioned, List.filter_cons_of_pos fires]
        exact .refl _
      next => cases h
  | .any members _, a, h => tests_accountAny? s members a h
  | .all members, a, h => by
      rw [account?] at h
      split at h
      · cases h
      · obtain ⟨parts, hparts, rfl⟩ := Option.map_eq_some_iff.1 h
        exact tests_accountAll? s members parts hparts

theorem tests_accountAny? (s : State α) : ∀ (ws : List Watch) (a : Account),
    accountAny? s ws = some a → a.tests.Sublist ((questionedAny s ws).filter (Test.fires s))
  | [], _, h => nomatch h
  | w :: ws, a, h => by
      rw [questionedAny, List.filter_append]
      rcases Option.or_eq_some_iff.1 h with first | ⟨passed, later⟩
      · exact (tests_account? s w a first).trans (List.sublist_append_left _ _)
      · have passed : (w.ask s).1 = false := by
          rw [← isSome_account?, passed]
          rfl
        rw [passed, if_neg Bool.false_ne_true]
        exact (tests_accountAny? s ws a later).trans (List.sublist_append_right _ _)

theorem tests_accountAll? (s : State α) : ∀ (ws : List Watch) (as : List Account),
    accountAll? s ws = some as →
      (Account.testsAll as).Sublist ((questionedAll s ws).filter (Test.fires s))
  | [], as, h => by
      cases h
      exact .refl _
  | w :: ws, as, h => by
      rw [accountAll?] at h
      split at h
      next a ha =>
        obtain ⟨rest, hrest, rfl⟩ := Option.map_eq_some_iff.1 h
        rw [questionedAll, stop_of_account? ha, if_pos rfl, List.filter_append]
        exact (tests_account? s w a ha).append (tests_accountAll? s ws rest hrest)
      next => cases h

end

end Watch

end BoxSearch

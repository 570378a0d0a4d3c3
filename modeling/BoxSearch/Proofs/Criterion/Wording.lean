import BoxSearch.Proofs.Criterion.Account
import BoxSearch.Proofs.Criterion.Inquiry
import Mathlib.Data.List.Infix

/-!
# The wording of reasons

The reason of a test is a sentence with numbers in it.  Two texts are no such sentences:
`never`, which is what the test that never fires would say, and `none of the criteria fired`,
which is what an `any` node says of itself when it has nobody to speak for it.  Neither of them
can be read anywhere in a reason that a test has for stopping a run, nor in several such reasons
joined with `and`.

* `begins_scientific` — a number with an exponent is written with digits and a few other
  characters, and its mark of the exponent is not the first one of them;
* `infix_append` — where two texts meet, a word can only be if a letter of it, and not its first
  one, begins the second text;
* `Test.sayable_reason`, `Account.sayable_text` — so neither text is in a reason of a test that
  can fire, nor in an account of such tests;
* `reason_truthful` — the reason that a watch gives for stopping a run is the text of its account
  of the state, it comes from tests that were asked just now and answered with a stop, and
  neither text is in it.
-/

namespace BoxSearch

/-! ## The characters of a number -/

namespace NumberFormat

/-- Whether a character can stand in a number before its exponent; what is no number or has no
end is written in letters. -/
def inNumber (c : Char) : Bool := c.isDigit || ".-Nainf".toList.contains c

/-- Whether a character can stand in a number with an exponent. -/
def inScientific (c : Char) : Bool := c == 'e' || inNumber c

/-- A text is written in some characters. -/
def WrittenIn (p : Char → Bool) (cs : List Char) : Prop := ∀ c ∈ cs, p c = true

instance (p : Char → Bool) (cs : List Char) : Decidable (WrittenIn p cs) :=
  decidable_of_iff (cs.all p = true) List.all_eq_true

variable {p : Char → Bool} {cs ds : List Char}

theorem WrittenIn.append (h : WrittenIn p cs) (h' : WrittenIn p ds) : WrittenIn p (cs ++ ds) :=
  List.forall_mem_append.2 ⟨h, h'⟩

theorem WrittenIn.cons {c : Char} (hc : p c = true) (h : WrittenIn p cs) :
    WrittenIn p (c :: cs) := List.forall_mem_cons.2 ⟨hc, h⟩

theorem WrittenIn.scientific (h : WrittenIn inNumber cs) : WrittenIn inScientific cs := by
  intro c hc
  rw [inScientific, h c hc, Bool.or_true]

theorem writtenIn_digitsOf (n : Nat) : WrittenIn inNumber (digitsOf n) := by
  intro c hc
  have digit : c.isDigit = true := Nat.isDigit_of_mem_toDigits (by decide) (by decide) hc
  rw [inNumber, digit, Bool.true_or]

theorem digitsOf_ne_nil (n : Nat) : digitsOf n ≠ [] := Nat.toDigits_ne_nil

theorem writtenIn_zeros (n : Nat) : WrittenIn inNumber (List.replicate n '0') := by
  intro c hc
  rw [List.eq_of_mem_replicate hc]
  decide

theorem writtenIn_layoutPositional (d : Decimal) :
    WrittenIn inNumber (layoutPositional false d) := by
  unfold layoutPositional
  split
  · exact ((writtenIn_digitsOf _).append (writtenIn_zeros _)).append (by decide)
  · have padded (width : Nat) : WrittenIn inNumber (zeroPadded width (digitsOf d.digits)) :=
      (writtenIn_zeros _).append (writtenIn_digitsOf _)
    refine WrittenIn.append (fun c hc => ?_) (.cons (by decide) fun c hc => ?_)
    · exact padded _ c (List.mem_of_mem_take hc)
    · exact padded _ c (List.mem_of_mem_drop hc)

theorem layoutPositional_ne_nil (d : Decimal) : layoutPositional false d ≠ [] := by
  unfold layoutPositional
  split
  · exact List.append_ne_nil_of_left_ne_nil
      (List.append_ne_nil_of_left_ne_nil (digitsOf_ne_nil _) _) _
  · exact List.append_ne_nil_of_right_ne_nil _ (List.cons_ne_nil _ _)

/-- A text begins with a part of a number, and its exponent comes later. -/
def Begins (cs : List Char) : Prop :=
  ∃ front back, cs = front ++ back ∧ front ≠ [] ∧ WrittenIn inNumber front ∧
    WrittenIn inScientific back

theorem Begins.of_writtenIn (h : WrittenIn inNumber cs) (some : cs ≠ []) : Begins cs :=
  ⟨cs, [], (List.append_nil cs).symm, some, h, nofun⟩

theorem Begins.preceded (h : Begins cs) (hd : WrittenIn inNumber ds) : Begins (ds ++ cs) := by
  obtain ⟨front, back, rfl, some, hf, hb⟩ := h
  exact ⟨ds ++ front, back, (List.append_assoc ds front back).symm,
    List.append_ne_nil_of_right_ne_nil ds some, hd.append hf, hb⟩

theorem begins_layoutScientific (d : Decimal) : Begins (layoutScientific "" d) := by
  have exponent (k : Int) : WrittenIn inScientific (layoutExponent "" k) := by
    have sign : WrittenIn inNumber (if k < 0 then ['-'] else "".toList) := by
      split <;> decide
    exact .cons (by decide) (sign.append (writtenIn_digitsOf _)).scientific
  have digits := writtenIn_digitsOf d.digits
  unfold layoutScientific
  cases hd : digitsOf d.digits with
  | nil => exact absurd hd (digitsOf_ne_nil _)
  | cons c rest =>
      rw [hd] at digits
      obtain ⟨first, others⟩ := List.forall_mem_cons.1 digits
      cases rest with
      | nil => exact ⟨[c], _, rfl, List.cons_ne_nil _ _, digits, exponent _⟩
      | cons b rest =>
          exact ⟨c :: '.' :: b :: rest, _, rfl, List.cons_ne_nil _ _,
            .cons first (.cons (by decide) others), exponent _⟩

theorem begins_signed {zero : List Char} {positive : Nat → Int → List Char} (hz : Begins zero)
    (hp : ∀ m e, Begins (positive m e)) (x : Float) :
    Begins (signed zero positive x).toList := by
  unfold signed
  rw [String.toList_ofList]
  split
  · exact .of_writtenIn (by decide) (by decide)
  · next s _ => exact (Begins.of_writtenIn (by decide) (by decide)).preceded (by cases s <;> decide)
  · next s _ => exact hz.preceded (by cases s <;> decide)
  · next s m e _ _ => exact (hp m e).preceded (by cases s <;> decide)

/-- **A number with an exponent** begins with a part that has no mark of the exponent in it. -/
theorem begins_scientific (places : Nat) (x : Float) : Begins (scientific places x).toList := by
  refine begins_signed ?_ (fun m e => begins_layoutScientific _) x
  exact ⟨_, ['e', '0'], rfl, layoutPositional_ne_nil _, writtenIn_layoutPositional _, by decide⟩

end NumberFormat

/-! ## Words that are not in a text -/

/-- A word is not in a text, and none of its letters but the first can be where the text
begins; so the word does not arise either when something is put before the text. -/
def Lacks (word cs : List Char) : Prop := ¬ word <:+: cs ∧ ∀ c ∈ cs.head?, c ∉ word.tail

instance (word cs : List Char) : Decidable (Lacks word cs) :=
  @instDecidableAnd _ _ inferInstance (Option.decidableForallMem cs.head?)

/-- Where two texts meet, a word can only be if a letter of it begins the second one. -/
theorem infix_append {word cs ds : List Char} (h : word <:+: cs ++ ds)
    (front : ∀ c ∈ ds.head?, c ∉ word.tail) : word <:+: cs ∨ word <:+: ds := by
  induction cs with
  | nil => exact Or.inr h
  | cons a cs ih =>
      rcases List.infix_cons_iff.1 h with h | h
      · rcases List.prefix_or_prefix_of_prefix h (List.prefix_append (a :: cs) ds) with h' | h'
        · exact Or.inl h'.isInfix
        · obtain ⟨rest, rfl⟩ := h'
          have beyond : rest <+: ds := (List.prefix_append_right_inj (a :: cs)).1 h
          cases rest with
          | nil =>
              rw [List.append_nil]
              exact Or.inl List.infix_rfl
          | cons c rest =>
              obtain ⟨_, rfl⟩ := beyond
              exact absurd (List.mem_append_right cs List.mem_cons_self) (front c rfl)
      · exact (ih h).imp_left List.infix_cons

theorem Lacks.append {word cs ds : List Char} (h : Lacks word cs) (h' : Lacks word ds) :
    Lacks word (cs ++ ds) := by
  constructor
  · intro found
    rcases infix_append found h'.2 with found | found
    · exact h.1 found
    · exact h'.1 found
  · intro c hc
    cases cs with
    | nil => exact h'.2 c hc
    | cons d cs => exact h.2 c hc

/-- A number has no word in it with a letter that is foreign to numbers. -/
theorem Lacks.of_begins {word cs : List Char} (h : NumberFormat.Begins cs)
    (foreign : ¬ NumberFormat.WrittenIn NumberFormat.inScientific word)
    (front : NumberFormat.WrittenIn (fun c => !NumberFormat.inNumber c) word.tail) :
    Lacks word cs := by
  obtain ⟨start, back, rfl, nonempty, number, rest⟩ := h
  constructor
  · intro found
    exact foreign fun c hc => (number.scientific.append rest) c (found.subset hc)
  · intro c hc letter
    rw [List.head?_append_of_ne_nil _ nonempty] at hc
    have other : (!NumberFormat.inNumber c) = true := front c letter
    rw [number c (List.mem_of_mem_head? hc)] at other
    cases other

/-- A text says neither `never` nor that no criterion fired; the latter is recognised by two
letters in the middle. -/
def Sayable (cs : List Char) : Prop := Lacks "never".toList cs ∧ Lacks "cr".toList cs

instance (cs : List Char) : Decidable (Sayable cs) := inferInstanceAs (Decidable (_ ∧ _))

namespace Sayable

variable {cs ds : List Char}

theorem append (h : Sayable cs) (h' : Sayable ds) : Sayable (cs ++ ds) :=
  ⟨h.1.append h'.1, h.2.append h'.2⟩

theorem of_begins (h : NumberFormat.Begins cs) : Sayable cs :=
  ⟨.of_begins h (by decide) (by decide), .of_begins h (by decide) (by decide)⟩

/-- Sayable texts are sayable together. -/
theorem intercalate {texts : List (List Char)} (h : ∀ cs ∈ texts, Sayable cs) :
    Sayable (" and ".toList.intercalate texts) := by
  induction texts with
  | nil => decide
  | cons cs texts ih =>
      obtain ⟨first, others⟩ := List.forall_mem_cons.1 h
      cases texts with
      | nil => rwa [List.intercalate_singleton]
      | cons ds texts =>
          rw [List.intercalate_cons_cons]
          exact (first.append (by decide)).append (ih others)

theorem not_noneFired (h : Sayable cs) : ¬ "none of the criteria fired".toList <:+: cs := by
  intro found
  have middle : "cr".toList <:+: "none of the criteria fired".toList := by decide
  exact h.2.1 (middle.trans found)

end Sayable

/-! ## Reasons -/

theorem sayable_append {a b : String} (h : Sayable a.toList) (h' : Sayable b.toList) :
    Sayable (a ++ b).toList := by
  rw [String.toList_append]
  exact h.append h'

theorem sayable_nat (n : Nat) : Sayable (toString n).toList := by
  rw [Nat.toString_eq_repr, Nat.toList_repr]
  exact .of_begins (.of_writtenIn (NumberFormat.writtenIn_digitsOf n)
    (NumberFormat.digitsOf_ne_nil n))

/-- A sentence with a number in the middle. -/
theorem sayable_scientific {a b : String} (ha : Sayable a.toList) (places : Nat) (x : Float)
    (hb : Sayable b.toList) : Sayable (a ++ scientific places x ++ b).toList :=
  sayable_append (sayable_append ha (.of_begins (NumberFormat.begins_scientific places x))) hb

/-- **What a test that can fire gives for a reason is sayable.** -/
theorem Test.sayable_reason {t : Test} (h : t ≠ .never) : Sayable t.reason.toList := by
  have counted (n : Nat) (kind : String) (hk : Sayable kind.toList) :
      Sayable (kind ++ toString n ++ " generations").toList :=
    sayable_append (sayable_append hk (sayable_nat n)) (by decide)
  cases t with
  | maxGenerations n => exact sayable_append (by decide) (sayable_nat n)
  | maxEvaluations n => exact sayable_append (by decide) (sayable_nat n)
  | valueToReach target => exact sayable_scientific (by decide) 6 target (by decide)
  | change tolerance generations =>
      exact sayable_scientific (by decide) 3 tolerance (counted _ _ (by decide))
  | relativeChange tolerance generations =>
      exact sayable_scientific (by decide) 3 tolerance (counted _ _ (by decide))
  | collapse xtol ftol =>
      exact sayable_scientific (sayable_scientific (by decide) 3 xtol (by decide)) 3 ftol
        (by decide)
  | energyDeviation tol atol =>
      exact sayable_scientific (sayable_scientific (by decide) 3 atol (by decide)) 3 tol
        (by decide)
  | stagnation n => exact counted _ _ (by decide)
  | never => exact absurd rfl h

namespace Account

mutual

/-- An account in which the test that never fires has no part is sayable. -/
theorem sayable_text : ∀ a : Account, (∀ l ∈ a.tests, l.1 ≠ .never) → Sayable a.text.toList
  | .test t m, h => Test.sayable_reason (h (t, m) List.mem_cons_self)
  | .all parts, h => by
      rw [text, String.toList_intercalate]
      refine Sayable.intercalate fun cs hcs => ?_
      obtain ⟨part, hpart, rfl⟩ := List.mem_map.1 hcs
      exact sayable_texts parts h part hpart

theorem sayable_texts : ∀ as : List Account, (∀ l ∈ testsAll as, l.1 ≠ .never) →
    ∀ part ∈ texts as, Sayable part.toList
  | [], _, _, hpart => nomatch hpart
  | a :: as, h, part, hpart => by
      obtain ⟨first, others⟩ := List.forall_mem_append.1 h
      rcases List.mem_cons.1 hpart with rfl | hpart
      · exact sayable_text a first
      · exact sayable_texts as others part hpart

end

end Account

/-! ## The truth of a reason -/

namespace Watch

variable {α : Type} [Scalar α]

/-- **A reason tells the truth.**  A watch that is asked about a state, whatever it remembers
and whichever members its nodes noted before, answers with a stop exactly when it has an account
of that state, and its reason is the text of that account: in it an `any` node is replaced by
its leftmost member that answers with a stop, and an `all` node by all its members.  Every test
in the account was asked in this very call and answered with a stop, and neither `never` nor
`none of the criteria fired` can be read in the reason.  A node without members never answers
with a stop. -/
theorem reason_truthful {s : State α} {w w' : Watch} {stop : Bool}
    (asked : w.answer s = .ok (stop, w')) :
    stop = (w.account? s).isSome ∧
    (∀ a, w.account? s = some a →
      w'.reason = a.text ∧
      a.tests.Sublist (w.questioned s) ∧ (∀ l ∈ a.tests, Test.fires s l = true) ∧
      ¬ "never".toList <:+: w'.reason.toList ∧
      ¬ "none of the criteria fired".toList <:+: w'.reason.toList) ∧
    (∀ members fired, (Watch.any members fired).account? s =
      (members.find? fun v => (v.ask s).1).bind (account? s)) ∧
    (∀ members, (Watch.all members).account? s =
      if !members.isEmpty && members.all fun v => (v.ask s).1 then
        some (.all (members.filterMap (account? s))) else none) ∧
    (∀ fired, (Watch.any [] fired).answer s = .ok (false, .any [] none)) ∧
    (Watch.all []).answer s = .ok (false, .all []) := by
  have hw : w.ask s = (stop, w') := by
    unfold answer at asked
    split at asked
    · cases asked
    · exact Except.ok.inj asked
  refine ⟨?_, fun a ha => ?_, account?_any s, account?_all s, fun _ => rfl, rfl⟩
  · rw [isSome_account?, hw]
  · have said : w'.reason = a.text := by
      have spoken := account?_text s w
      rw [stop_of_account? ha, if_pos rfl, ha, hw] at spoken
      exact (Option.some.inj spoken).symm
    have spoke := tests_account? s w a ha
    have fire : ∀ l ∈ a.tests, Test.fires s l = true := fun l hl =>
      (List.mem_filter.1 (spoke.subset hl)).2
    have sayable : Sayable a.text.toList := by
      refine a.sayable_text fun l hl never => ?_
      have fires := fire l hl
      rw [Test.fires, never] at fires
      cases fires
    rw [said]
    exact ⟨rfl, spoke.trans List.filter_sublist, fire, sayable.1.1, sayable.not_noneFired⟩

/-- A tree with a node that can speak through two members. -/
def twoVoices : Criterion :=
  .all [.test (.stagnation 1), .any [.test (.maxEvaluations 10), .test (.maxGenerations 2)],
    .test (.maxGenerations 3)]

/-- The node notes its first member in the second state, where the tree does not stop the run,
and speaks through the other one when the tree does. -/
theorem reason_truthful_twoVoices :
    ∃ w w', ((ofCriterion twoVoices).inquire [stateSeen 1 12 0, stateSeen 2 12 0]).after = .ok w ∧
      w.answer (stateSeen 3 8 0) = .ok (true, w') ∧
      w'.reason = "No improvement for 1 generations and Maximum generations reached: 2 and " ++
        "Maximum generations reached: 3" ∧
      ∃ a, w.account? (stateSeen 3 8 0) = some a ∧ w'.reason = a.text ∧
        a.tests.map Prod.fst = [.stagnation 1, .maxGenerations 2, .maxGenerations 3] ∧
        a.tests.Sublist (w.questioned (stateSeen 3 8 0)) ∧
        ¬ "never".toList <:+: w'.reason.toList := by
  refine ⟨_, _, rfl, rfl, rfl, _, rfl, ?_⟩
  have stopped : ((Watch.all [.test (.stagnation 1) ⟨some 2, [], some 0, 1⟩,
      .any [.test (.maxEvaluations 10) .blank, .test (.maxGenerations 2) .blank] (some 0),
      .test (.maxGenerations 3) .blank]).answer (stateSeen 3 8 0)) = .ok (true, _) := rfl
  obtain ⟨-, told, -⟩ := reason_truthful stopped
  obtain ⟨said, spoke, -, never, -⟩ := told _ rfl
  exact ⟨said, rfl, spoke, never⟩

end Watch

end BoxSearch

import BoxSearch.Json.Record
import BoxSearch.Json.Token
import Mathlib.Data.List.TakeWhile

/-!
# Numerals are read as they are written

What is said here of numerals is what a reader of documents has to know about them: the
text of a numeral is made of characters of numerals, so that it is cut out of a document as
a whole (`inNumeral_of_ofChars?`), and the decimal digits of a natural number that fits into
64 bits stand for this number (`nat?_nat`).
-/

namespace BoxSearch
namespace Json

/-! ## The characters of a numeral -/

namespace Numeral

/-- What is read off the front of a text consists of characters of numerals. -/
def ReadsOff (cs rest : List Char) : Prop :=
  ∃ front, cs = front ++ rest ∧ ∀ c ∈ front, Token.inNumeral c = true

variable {cs ds rest : List Char}

theorem ReadsOff.refl (cs : List Char) : ReadsOff cs cs := ⟨[], rfl, nofun⟩

theorem ReadsOff.trans (h : ReadsOff cs ds) (h' : ReadsOff ds rest) : ReadsOff cs rest := by
  obtain ⟨front, rfl, hf⟩ := h
  obtain ⟨front', rfl, hf'⟩ := h'
  refine ⟨front ++ front', (List.append_assoc ..).symm, fun c hc => ?_⟩
  exact (List.mem_append.1 hc).elim (hf c) (hf' c)

theorem ReadsOff.cons {c : Char} (hc : Token.inNumeral c = true) (h : ReadsOff cs rest) :
    ReadsOff (c :: cs) rest := by
  obtain ⟨front, rfl, hf⟩ := h
  exact ⟨c :: front, rfl, List.forall_mem_cons.2 ⟨hc, hf⟩⟩

theorem inNumeral_of_isDigit {c : Char} (h : isDigit c = true) : Token.inNumeral c = true := by
  simp only [Token.inNumeral, h, Bool.true_or]

theorem readsOff_digits (cs : List Char) : ReadsOff cs (digits cs).2 :=
  ⟨cs.takeWhile isDigit, List.takeWhile_append_dropWhile.symm,
    fun _ hc => inNumeral_of_isDigit (List.mem_takeWhile_imp hc)⟩

theorem readsOff_whole? {ds : List Nat} (h : whole? cs = some (ds, rest)) : ReadsOff cs rest := by
  have found : (digits cs).2 = rest := by
    unfold whole? at h
    split at h
    · cases h
    · cases h
    · exact congrArg Prod.snd (Option.some.inj h)
  exact found ▸ readsOff_digits cs

theorem readsOff_fraction? {ds : List Nat} (h : fraction? cs = some (ds, rest)) :
    ReadsOff cs rest := by
  unfold fraction? at h
  split at h
  next cs =>
    have found : (digits cs).2 = rest := by
      split at h
      · cases h
      · exact congrArg Prod.snd (Option.some.inj h)
    exact .cons rfl (found ▸ readsOff_digits cs)
  · cases h
    exact .refl cs

theorem readsOff_exponentSign (cs : List Char) : ReadsOff cs (exponentSign cs).2 := by
  unfold exponentSign
  split
  · exact .cons rfl (.refl _)
  · exact .cons rfl (.refl _)
  · exact .refl _

theorem readsOff_exponent? {e : Option (Bool × List Nat)} (h : exponent? cs = some (e, rest)) :
    ReadsOff cs rest := by
  unfold exponent? at h
  split at h
  next c cs =>
    by_cases mark : c = 'e' ∨ c = 'E'
    · have inside : Token.inNumeral c = true := by
        rcases mark with rfl | rfl <;> rfl
      rw [if_pos (by simpa using mark)] at h
      have found : (digits (exponentSign cs).2).2 = rest := by
        dsimp only at h
        split at h
        · cases h
        next heq =>
          rw [heq]
          exact congrArg Prod.snd (Option.some.inj h)
      exact .cons inside ((readsOff_exponentSign cs).trans (found ▸ readsOff_digits _))
    · rw [if_neg (by simpa using mark)] at h
      cases h
      exact .refl _
  · cases h
    exact .refl _

/-- A numeral is read off its text to the end. -/
theorem readsOff_of_ofChars? {n : Numeral} (h : ofChars? cs = some n) : ReadsOff cs [] := by
  simp only [ofChars?, bind, Option.bind_eq_some_iff] at h
  obtain ⟨⟨whole, afterWhole⟩, hw, ⟨fraction, afterFraction⟩, hf, ⟨exponent, left⟩, he, last⟩ := h
  have done : left = [] := by
    cases left with
    | nil => rfl
    | cons c left => cases last
  have unsigned {ds : List Char} (hw : whole? ds = some (whole, afterWhole)) : ReadsOff ds [] :=
    done ▸ (readsOff_whole? hw).trans ((readsOff_fraction? hf).trans (readsOff_exponent? he))
  split at hw
  · exact .cons rfl (unsigned hw)
  · exact unsigned hw

/-- **A numeral consists of characters of numerals**, and there is one at least. -/
theorem inNumeral_of_ofChars? (h : (ofChars? cs).isSome = true) :
    cs ≠ [] ∧ ∀ c ∈ cs, Token.inNumeral c = true := by
  constructor
  · rintro rfl
    cases h
  · obtain ⟨n, hn⟩ := Option.isSome_iff_exists.1 h
    obtain ⟨front, rfl, hf⟩ := readsOff_of_ofChars? hn
    simpa only [List.append_nil] using hf

/-! ## The digits of a natural number -/

theorem natural_map_digit (ds : List Char) : natural (ds.map digit) = Nat.ofDigitChars 10 ds 0 := by
  have step (n : Nat) (c : Char) : n * 10 + digit c = 10 * n + (c.toNat - '0'.toNat) := by
    rw [digit, Nat.mul_comm]
  rw [natural, Nat.ofDigitChars_eq_foldl, List.foldl_map]
  simp only [step]

/-- No number but zero is written with a zero in front. -/
theorem head?_toDigits {n : Nat} (pos : 0 < n) : (Nat.toDigits 10 n).head? ≠ some '0' := by
  induction n using Nat.strongRecOn with
  | _ n ih =>
      rw [Nat.toDigits_eq_if (by decide)]
      split
      next small => simpa using pos.ne'
      next large =>
        have front := ih (n / 10) (by omega) (by omega)
        cases hds : Nat.toDigits 10 (n / 10) with
        | nil => exact absurd hds Nat.toDigits_ne_nil
        | cons d ds =>
            rw [hds] at front
            exact front

theorem isDigit_of_mem_toDigits {n : Nat} {c : Char} (hc : c ∈ Nat.toDigits 10 n) :
    isDigit c = true := Nat.isDigit_of_mem_toDigits (by decide) (by decide) hc

theorem eq_zero_of_digit {c : Char} (h : isDigit c = true) (zero : digit c = 0) : c = '0' := by
  have above : '0' ≤ c := by simpa using (Bool.and_eq_true_iff.1 h).1
  have value : c.toNat ≤ '0'.toNat := Nat.le_of_sub_eq_zero zero
  exact Char.le_antisymm value above

theorem whole?_toDigits (n : Nat) :
    whole? (Nat.toDigits 10 n) = some ((Nat.toDigits 10 n).map digit, []) := by
  have all : ∀ c ∈ Nat.toDigits 10 n, isDigit c = true := fun _ => isDigit_of_mem_toDigits
  have found : digits (Nat.toDigits 10 n) = ((Nat.toDigits 10 n).map digit, []) := by
    rw [digits, List.takeWhile_eq_self_iff.2 all, List.dropWhile_eq_nil_iff.2 all]
  unfold whole?
  rw [found]
  split
  next empty =>
    exact absurd (List.map_eq_nil_iff.1 (congrArg Prod.fst empty)) Nat.toDigits_ne_nil
  next d ds rest leading =>
    have front : (Nat.toDigits 10 n).map digit = 0 :: d :: ds := congrArg Prod.fst leading
    cases hds : Nat.toDigits 10 n with
    | nil => exact absurd hds Nat.toDigits_ne_nil
    | cons c cs =>
        rw [hds, List.map_cons, List.cons.injEq] at front
        have zero := eq_zero_of_digit (all c (hds ▸ List.mem_cons_self ..)) front.1
        rcases Nat.eq_zero_or_pos n with rfl | pos
        · cases hds
          cases front.2
        · exact absurd (by rw [hds, zero]; rfl) (head?_toDigits pos)
  · rfl

/-- The decimal digits of a natural number are a numeral. -/
theorem ofChars?_toDigits (n : Nat) :
    ofChars? (Nat.toDigits 10 n) = some ⟨false, (Nat.toDigits 10 n).map digit, [], none⟩ := by
  have whole := whole?_toDigits n
  unfold ofChars?
  split
  next negative cs read =>
    split at read
    next cs signed =>
      have minus : '-' ∈ Nat.toDigits 10 n := signed ▸ List.mem_cons_self ..
      cases isDigit_of_mem_toDigits minus
    · cases read
      rw [whole]
      rfl

end Numeral

/-- The digits of a natural number below `2 ^ 64` stand for it. -/
theorem number?_nat {n : Nat} (h : n < UInt64.size) : (nat n).number? = some (.natural n) := by
  have value : Numeral.natural ((Nat.toDigits 10 n).map Numeral.digit) = n := by
    rw [Numeral.natural_map_digit, Nat.ofDigitChars_ten_toDigits]
  show (Numeral.ofChars? (toString n).toList).bind Numeral.value? = _
  rw [Nat.toString_eq_repr, Nat.toList_repr, Numeral.ofChars?_toDigits, Option.bind_some]
  simp only [Numeral.value?, value, Numeral.limit, h]
  rfl

/-- **A natural number below `2 ^ 64` is read as it was written.** -/
theorem nat?_nat {n : Nat} (h : n < UInt64.size) : (nat n).nat? = some n := by
  rw [nat?, number?_nat h]

end Json
end BoxSearch

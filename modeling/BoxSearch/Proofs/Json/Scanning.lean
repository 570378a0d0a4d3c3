import BoxSearch.Proofs.Json.Numerals

/-!
# Tokens are scanned as they are written

The scanner undoes the writing of tokens: of a literal whatever characters it holds, of a
word, and of a numeral that nothing follows with which it could go on (`first?_write`).
Blanks before a token do not matter.  `Scans` puts this together for texts of many tokens.
-/

namespace BoxSearch
namespace Json
namespace Token

variable {c : Char} {cs rest : List Char} {t : Token} {ts : List Token}

/-! ## Literals -/

/-- The literal goes on with one piece. -/
def withPiece (p : Piece) (r : List Piece × List Char) : List Piece × List Char := (p :: r.1, r.2)

theorem scanText_short {e : Char} (h : escaped? e = some c) :
    scanText ('\\' :: e :: cs) = (scanText cs).map (withPiece (.char c)) := by
  have short : e ≠ 'u' := by
    rintro rfl
    cases h
  rw [scanText, h]
  · cases scanText cs <;> rfl
  · intro _ _ _ _ _ he
    exact absurd he short

theorem scanText_number {a b c d : Char} {n : Nat} (h : hex? a b c d = some n) :
    scanText ('\\' :: 'u' :: a :: b :: c :: d :: cs) = (scanText cs).map (withPiece (.unit n)) := by
  rw [scanText, h]
  cases scanText cs <;> rfl

theorem scanText_plain (quote : c ≠ '"') (backslash : c ≠ '\\') (h : ¬ c.toNat < 0x20) :
    scanText (c :: cs) = (scanText cs).map (withPiece (.char c)) := by
  rw [scanText, if_neg (by simpa [backslash] using h)]
  · cases scanText cs <;> rfl
  · exact quote
  · intro _ _ _ _ _ hc
    exact absurd hc backslash
  · intro _ _ hc
    exact absurd hc backslash

/-- A unit below the surrogates stands for its character, whatever follows. -/
theorem characters_unit {n : Nat} (h : n < 0x20) (ps : List Piece) :
    characters (.unit n :: ps) = (characters ps).map (Char.ofNat n :: ·) := by
  have high : isHigh n = false := by
    simp only [isHigh, Bool.and_eq_false_iff, decide_eq_false_iff_not]
    omega
  have low : isLow n = false := by
    simp only [isLow, Bool.and_eq_false_iff, decide_eq_false_iff_not]
    omega
  cases ps with
  | nil => simp [characters, high, low]
  | cons p ps => cases p <;> simp [characters, high, low]

theorem hex?_hexChar : ∀ n < 0x20, hex? '0' '0' (hexChar (n / 16)) (hexChar (n % 16)) = some n := by
  decide +kernel

/-- **A written character is scanned as one piece, which stands for it.** -/
theorem scanText_writeChar (c : Char) :
    ∃ p, (∀ cs, scanText (writeChar c ++ cs) = (scanText cs).map (withPiece p)) ∧
      ∀ ps, characters (p :: ps) = (characters ps).map (c :: ·) := by
  unfold writeChar
  split
  case h_8 quote backslash _ _ _ _ _ =>
    by_cases control : c.toNat < 0x20
    · refine ⟨.unit c.toNat, fun cs => ?_, fun ps => ?_⟩
      · rw [if_pos control]
        exact scanText_number (hex?_hexChar c.toNat control)
      · rw [characters_unit control, Char.ofNat_toNat]
    · refine ⟨.char c, fun cs => ?_, fun _ => rfl⟩
      rw [if_neg control]
      exact scanText_plain quote backslash control
  all_goals exact ⟨.char _, fun cs => scanText_short rfl, fun _ => rfl⟩

theorem scanText_flatMap (text rest : List Char) :
    ∃ ps, scanText (text.flatMap writeChar ++ '"' :: rest) = some (ps, rest) ∧
      characters ps = some text := by
  induction text with
  | nil => exact ⟨[], by rw [List.flatMap_nil, List.nil_append, scanText], rfl⟩
  | cons c text ih =>
      obtain ⟨ps, hs, hc⟩ := ih
      obtain ⟨p, here, stands⟩ := scanText_writeChar c
      refine ⟨p :: ps, ?_, ?_⟩
      · rw [List.flatMap_cons, List.append_assoc, here, hs]
        rfl
      · rw [stands, hc]
        rfl

/-- **A literal is scanned as it was written**, whatever characters it holds. -/
theorem first?_writeText (s : String) :
    first? (writeText s ++ rest) = some (.string (some s), rest) := by
  obtain ⟨ps, hs, hc⟩ := scanText_flatMap s.toList rest
  have whole : writeText s ++ rest = '"' :: (s.toList.flatMap writeChar ++ '"' :: rest) := by
    simp only [writeText, List.cons_append, List.append_assoc, List.nil_append]
  rw [whole, first?, hs]
  simp only [bind, Option.bind, hc, Option.map_some, String.ofList_toList]

/-! ## Numerals -/

/-- A text with which no numeral can go on. -/
def EndsNumeral (rest : List Char) : Prop := ∀ c ∈ rest.head?, inNumeral c = false

theorem EndsNumeral.takeWhile (h : EndsNumeral rest) : rest.takeWhile inNumeral = [] := by
  cases rest with
  | nil => rfl
  | cons c rest => rw [List.takeWhile_cons, h c rfl]; rfl

theorem EndsNumeral.dropWhile (h : EndsNumeral rest) : rest.dropWhile inNumeral = rest := by
  cases rest with
  | nil => rfl
  | cons c rest => rw [List.dropWhile_cons, h c rfl]; rfl

/-- **A numeral is scanned as it is written**, when it ends there. -/
theorem first?_number (h : (Numeral.ofChars? cs).isSome = true) (ends : EndsNumeral rest) :
    first? (cs ++ rest) = some (.number (String.ofList cs), rest) := by
  obtain ⟨nonempty, all⟩ := Numeral.inNumeral_of_ofChars? h
  have taken : (cs ++ rest).takeWhile inNumeral = cs := by
    rw [List.takeWhile_append_of_pos all, ends.takeWhile, List.append_nil]
  have left : (cs ++ rest).dropWhile inNumeral = rest := by
    rw [List.dropWhile_append_of_pos all, ends.dropWhile]
  obtain ⟨c, cs, rfl⟩ := List.exists_cons_of_ne_nil nonempty
  have first := all c (List.mem_cons_self ..)
  rw [List.cons_append] at taken left ⊢
  unfold first?
  split
  case h_12 => rw [taken, left, if_pos h]
  case h_1 read => cases read
  all_goals
    rename_i read
    cases read
    cases first

/-! ## Tokens -/

/-- A token that stands for something: its numeral is one, and its text is readable. -/
def legible : Token → Bool
  | .number text => (Numeral.ofChars? text.toList).isSome
  | .string text => text.isSome
  | _ => true

/-- **A token is scanned as it is written**, when nothing goes on with its numeral. -/
theorem first?_write (h : t.legible = true) (ends : EndsNumeral rest) :
    first? (t.write ++ rest) = some (t, rest) := by
  cases t with
  | number text => 
      have scanned := first?_number h ends
      rw [String.ofList_toList] at scanned
      exact scanned
  | string text =>
      obtain ⟨s, rfl⟩ := Option.isSome_iff_exists.1 h
      exact first?_writeText s
  | bool b => cases b <;> rfl
  | _ => rfl

/-- No token is empty, and none begins with a blank. -/
theorem write_ne_blank (h : t.legible = true) :
    ∃ c cs, t.write = c :: cs ∧ isBlank c = false := by
  cases t with
  | number text =>
      obtain ⟨nonempty, all⟩ := Numeral.inNumeral_of_ofChars? h
      obtain ⟨c, cs, hc⟩ := List.exists_cons_of_ne_nil nonempty
      have first := all c (hc ▸ List.mem_cons_self ..)
      refine ⟨c, cs, hc, ?_⟩
      by_contra blank
      simp only [isBlank, Bool.not_eq_false, Bool.or_eq_true, decide_eq_true_eq] at blank
      rcases blank with ((rfl | rfl) | rfl) | rfl <;> cases first
  | string text => exact ⟨'"', _, rfl, rfl⟩
  | bool b => cases b <;> exact ⟨_, _, rfl, rfl⟩
  | _ => exact ⟨_, _, rfl, rfl⟩

/-! ## Texts of many tokens -/

/-- A text consists of these tokens, of which there are no more than characters. -/
structure Scans (cs : List Char) (ts : List Token) : Prop where
  count : ts.length ≤ cs.length
  scan : ∀ fuel, ts.length ≤ fuel → scanFrom fuel cs = some ts

theorem Scans.nil : Scans [] [] := by
  refine ⟨Nat.le_refl _, fun fuel _ => ?_⟩
  rw [scanFrom]
  rfl

theorem scanFrom_cons_blank (h : isBlank c = true) (fuel : Nat) :
    scanFrom fuel (c :: cs) = scanFrom fuel cs := by
  have skipped : (c :: cs).dropWhile isBlank = cs.dropWhile isBlank := List.dropWhile_cons_of_pos h
  rw [scanFrom.eq_def, scanFrom.eq_def]
  dsimp only
  rw [skipped]

theorem Scans.blank (hc : isBlank c = true) (h : Scans cs ts) : Scans (c :: cs) ts :=
  ⟨Nat.le_succ_of_le h.count, fun fuel hf => (scanFrom_cons_blank hc fuel).trans (h.scan fuel hf)⟩

theorem Scans.token (ht : t.legible = true) (ends : EndsNumeral rest) (h : Scans rest ts) :
    Scans (t.write ++ rest) (t :: ts) := by
  obtain ⟨c, cs, hw, hc⟩ := write_ne_blank ht
  have first := first?_write ht ends
  have kept : (t.write ++ rest).dropWhile isBlank = t.write ++ rest := by
    rw [hw, List.cons_append, List.dropWhile_cons_of_neg (by rw [hc]; exact Bool.false_ne_true)]
  refine ⟨?_, fun fuel hf => ?_⟩
  · have := h.count
    simp only [hw, List.cons_append, List.length_cons, List.length_append]
    omega
  · cases fuel with
    | zero => cases hf
    | succ fuel =>
        have later := h.scan fuel (Nat.le_of_succ_le_succ hf)
        rw [scanFrom.eq_def]
        dsimp only
        rw [kept, hw, List.cons_append]
        dsimp only
        rw [← List.cons_append, ← hw, first]
        simp only [bind, Option.bind, later, Option.map_some]

end Token
end Json
end BoxSearch

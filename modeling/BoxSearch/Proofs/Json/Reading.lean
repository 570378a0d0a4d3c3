import BoxSearch.Json.Reader
import BoxSearch.Json.Writer
import BoxSearch.Proofs.Json.Scanning

/-!
# Documents are read as they were laid out

A document is a sequence of tokens (`Json.tokens`).  Laid out, it is the text of these tokens
with blanks between them, so the scanner finds them again (`scans_pretty`); and a reader that
may make twice as many nested calls as there are tokens puts the document together from them
(`ofTokens?_tokens`).  Together: reading a document that was laid out gives the document
(`read?_pretty`), whatever texts stand in it, as long as all its numerals are numerals.
-/

namespace BoxSearch
namespace Json

/-! ## The tokens of a document -/

mutual

/-- The tokens of a document. -/
def tokens : Json → List Token
  | .null => [.null]
  | .bool b => [.bool b]
  | .number text => [.number text]
  | .string text => [.string text]
  | .array items => .openArray :: itemTokens items ++ [.closeArray]
  | .object members => .openObject :: memberTokens members ++ [.closeObject]

/-- The tokens of items. -/
def itemTokens : List Json → List Token
  | [] => []
  | [x] => tokens x
  | x :: xs => tokens x ++ .comma :: itemTokens xs

/-- The tokens of members. -/
def memberTokens : List (Option String × Json) → List Token
  | [] => []
  | [(k, v)] => .string k :: .colon :: tokens v
  | (k, v) :: ms => .string k :: .colon :: tokens v ++ .comma :: memberTokens ms

end

/-! ## Scanning -/

section

open Token

variable {rest : List Char} {ts : List Token} {levels : Nat}

theorem Token.Scans.blanks (n : Nat) (h : Scans rest ts) :
    Scans (List.replicate n ' ' ++ rest) ts := by
  induction n with
  | zero => exact h
  | succ n ih => exact .blank rfl ih

theorem Token.Scans.newLine (level : Nat) (h : Scans rest ts) : Scans (newLine level ++ rest) ts :=
  .blank rfl (h.blanks _)

theorem endsNumeral_newLine (level : Nat) : EndsNumeral (newLine level ++ rest) := by
  rintro c ⟨⟩
  rfl

theorem endsNumeral_cons {c : Char} (h : inNumeral c = false) : EndsNumeral (c :: rest) := by
  rintro d ⟨⟩
  exact h

/-- The first item begins with a new line. -/
theorem endsNumeral_prettyItems (level : Nat) (x : Json) (xs : List Json) :
    EndsNumeral (prettyItems level (x :: xs) ++ rest) := by
  cases xs with
  | nil =>
      rw [prettyItems, List.append_assoc]
      exact endsNumeral_newLine level
  | cons y xs =>
      rw [prettyItems, List.append_assoc, List.append_assoc]
      · exact endsNumeral_newLine level
      · exact nofun

/-- The first member begins with a new line. -/
theorem endsNumeral_prettyMembers (level : Nat) (m : Option String × Json)
    (ms : List (Option String × Json)) : EndsNumeral (prettyMembers level (m :: ms) ++ rest) := by
  obtain ⟨k, v⟩ := m
  cases ms with
  | nil =>
      rw [prettyMembers, List.append_assoc, List.append_assoc]
      exact endsNumeral_newLine level
  | cons m ms =>
      rw [prettyMembers, List.append_assoc, List.append_assoc, List.append_assoc]
      · exact endsNumeral_newLine level
      · exact nofun

/-- The literal of a readable key is scanned, and the colon after it. -/
theorem Token.Scans.key {k : Option String} (hk : k.isSome = true) (h : Scans rest ts) :
    Scans ((Token.string k).write ++ ':' :: ' ' :: rest) (.string k :: .colon :: ts) :=
  .token hk (endsNumeral_cons rfl) (.token (t := .colon) rfl (endsNumeral_cons rfl) (.blank rfl h))

theorem legible_number {text : String} (h : readable levels (.number text) = true) :
    Token.legible (.number text) = true := by
  obtain ⟨v, hv⟩ := Option.isSome_iff_exists.1 h
  obtain ⟨n, hn, _⟩ := Option.bind_eq_some_iff.1 hv
  exact Option.isSome_iff_exists.2 ⟨n, hn⟩

mutual

/-- The tokens of a laid-out document are scanned, then those of the rest. -/
theorem scans_writePretty (level : Nat) : ∀ (levels : Nat) (j : Json) (rest : List Char)
    (ts : List Token), j.readable levels = true → EndsNumeral rest → Scans rest ts →
      Scans (writePretty level j ++ rest) (tokens j ++ ts)
  | _, .null, _, _, _, ends, h => by
      rw [writePretty, tokens]
      exact .token (t := .null) rfl ends h
  | _, .bool b, _, _, _, ends, h => by
      rw [writePretty, tokens]
      exact .token (t := .bool b) rfl ends h
  | _, .number text, _, _, hj, ends, h => by
      rw [writePretty, tokens]
      exact .token (t := .number text) (legible_number hj) ends h
  | _, .string text, _, _, hj, ends, h => by
      rw [writePretty, tokens]
      exact .token (t := .string text) hj ends h
  | _, .array [], _, _, _, ends, h => by
      rw [writePretty, tokens, itemTokens]
      exact .token (t := .openArray) rfl (endsNumeral_cons rfl)
        (.token (t := .closeArray) rfl ends h)
  | levels + 1, .array (x :: xs), rest, ts, hj, ends, h => by
      have closed : Scans (']' :: rest) (.closeArray :: ts) := .token (t := .closeArray) rfl ends h
      have items := scans_prettyItems (level + 1) levels (x :: xs) _ _ hj
        (endsNumeral_newLine level) (closed.newLine level)
      have whole :
          Scans ('[' :: (prettyItems (level + 1) (x :: xs) ++ (newLine level ++ ']' :: rest)))
            (.openArray :: (itemTokens (x :: xs) ++ .closeArray :: ts)) :=
        .token (t := .openArray) rfl (endsNumeral_prettyItems (level + 1) x xs) items
      simpa only [writePretty, tokens, List.cons_append, List.append_assoc, List.nil_append]
        using whole
  | _, .object [], _, _, _, ends, h => by
      rw [writePretty, tokens, memberTokens]
      exact .token (t := .openObject) rfl (endsNumeral_cons rfl)
        (.token (t := .closeObject) rfl ends h)
  | levels + 1, .object (m :: ms), rest, ts, hj, ends, h => by
      have closed : Scans ('\x7d' :: rest) (.closeObject :: ts) :=
        .token (t := .closeObject) rfl ends h
      have members := scans_prettyMembers (level + 1) levels (m :: ms) _ _ hj
        (endsNumeral_newLine level) (closed.newLine level)
      have whole :
          Scans ('\x7b' :: (prettyMembers (level + 1) (m :: ms) ++
              (newLine level ++ '\x7d' :: rest)))
            (.openObject :: (memberTokens (m :: ms) ++ .closeObject :: ts)) :=
        .token (t := .openObject) rfl (endsNumeral_prettyMembers (level + 1) m ms) members
      simpa only [writePretty, tokens, List.cons_append, List.append_assoc, List.nil_append]
        using whole

theorem scans_prettyItems (level : Nat) : ∀ (levels : Nat) (xs : List Json) (rest : List Char)
    (ts : List Token), readableItems levels xs = true → EndsNumeral rest → Scans rest ts →
      Scans (prettyItems level xs ++ rest) (itemTokens xs ++ ts)
  | _, [], _, _, _, _, h => h
  | levels, [x], rest, ts, hj, ends, h => by
      have item := scans_writePretty level levels x rest ts (Bool.and_eq_true_iff.1 hj).1 ends h
      simpa only [prettyItems, itemTokens, List.append_assoc] using item.newLine level
  | levels, x :: y :: xs, rest, ts, hj, ends, h => by
      obtain ⟨hx, hxs⟩ := Bool.and_eq_true_iff.1 hj
      have others := scans_prettyItems level levels (y :: xs) rest ts hxs ends h
      have comma : Scans (',' :: (prettyItems level (y :: xs) ++ rest))
          (.comma :: (itemTokens (y :: xs) ++ ts)) :=
        .token (t := .comma) rfl (endsNumeral_prettyItems level y xs) others
      have item := scans_writePretty level levels x _ _ hx (endsNumeral_cons rfl) comma
      simpa only [prettyItems, itemTokens, List.append_assoc, List.cons_append]
        using item.newLine level

theorem scans_prettyMembers (level : Nat) : ∀ (levels : Nat) (ms : List (Option String × Json))
    (rest : List Char) (ts : List Token), readableMembers levels ms = true → EndsNumeral rest →
      Scans rest ts → Scans (prettyMembers level ms ++ rest) (memberTokens ms ++ ts)
  | _, [], _, _, _, _, h => h
  | levels, [(k, v)], rest, ts, hj, ends, h => by
      obtain ⟨⟨hk, hv⟩, _⟩ := (Bool.and_eq_true_iff.1 hj).imp_left Bool.and_eq_true_iff.1
      have value := scans_writePretty level levels v rest ts hv ends h
      simpa only [prettyMembers, memberTokens, List.append_assoc, List.cons_append]
        using (value.key hk).newLine level
  | levels, (k, v) :: m :: ms, rest, ts, hj, ends, h => by
      obtain ⟨⟨hk, hv⟩, hms⟩ := (Bool.and_eq_true_iff.1 hj).imp_left Bool.and_eq_true_iff.1
      have others := scans_prettyMembers level levels (m :: ms) rest ts hms ends h
      have comma : Scans (',' :: (prettyMembers level (m :: ms) ++ rest))
          (.comma :: (memberTokens (m :: ms) ++ ts)) :=
        .token (t := .comma) rfl (endsNumeral_prettyMembers level m ms) others
      have value := scans_writePretty level levels v _ _ hv (endsNumeral_cons rfl) comma
      simpa only [prettyMembers, memberTokens, List.append_assoc, List.cons_append]
        using (value.key hk).newLine level

end

/-- **A laid-out document is scanned into its tokens.** -/
theorem scan_pretty {j : Json} (h : j.readable levels = true) :
    Token.scan j.pretty = some (tokens j) := by
  have whole : Scans (writePretty 0 j) (tokens j) := by
    simpa only [List.append_nil] using scans_writePretty 0 levels j [] [] h nofun .nil
  rw [Token.scan, pretty, String.toList_ofList, String.length_ofList]
  exact whole.scan _ whole.count

end

/-! ## Reading -/

theorem tokens_array_append (xs : List Json) (rest : List Token) :
    tokens (.array xs) ++ rest = .openArray :: (itemTokens xs ++ .closeArray :: rest) := by
  rw [tokens, List.cons_append, List.cons_append, List.append_assoc, List.singleton_append]

theorem tokens_object_append (ms : List (Option String × Json)) (rest : List Token) :
    tokens (.object ms) ++ rest = .openObject :: (memberTokens ms ++ .closeObject :: rest) := by
  rw [tokens, List.cons_append, List.cons_append, List.append_assoc, List.singleton_append]

theorem itemTokens_append (x y : Json) (xs : List Json) (rest : List Token) :
    itemTokens (x :: y :: xs) ++ rest = tokens x ++ .comma :: (itemTokens (y :: xs) ++ rest) := by
  rw [itemTokens, List.append_assoc, List.cons_append]
  exact nofun

theorem memberTokens_append (k : Option String) (v : Json) (m : Option String × Json)
    (ms : List (Option String × Json)) (rest : List Token) :
    memberTokens ((k, v) :: m :: ms) ++ rest =
      .string k :: .colon :: (tokens v ++ .comma :: (memberTokens (m :: ms) ++ rest)) := by
  rw [memberTokens]
  · simp only [List.cons_append, List.append_assoc]
  · exact nofun

/-- The items of a list do not begin with its end. -/
theorem itemTokens_cons (x : Json) (xs : List Json) :
    ∃ t ts, itemTokens (x :: xs) = t :: ts ∧ t ≠ .closeArray := by
  have first : ∃ t ts, tokens x = t :: ts ∧ t ≠ .closeArray := by
    cases x <;> exact ⟨_, _, rfl, nofun⟩
  obtain ⟨t, ts, ht, open_⟩ := first
  cases xs with
  | nil => exact ⟨t, ts, ht, open_⟩
  | cons y xs =>
      refine ⟨t, ts ++ .comma :: itemTokens (y :: xs), ?_, open_⟩
      rw [itemTokens, ht, List.cons_append]
      exact nofun

theorem value?_openArray {fuel : Nat} {t : Token} {ts : List Token} (h : t ≠ .closeArray) :
    value? (fuel + 1) (.openArray :: t :: ts) =
      (items? fuel (t :: ts)).map fun r => (.array r.1, r.2) := by
  rw [value?]
  rintro ts' ⟨⟩
  exact h rfl

theorem value?_openObject {fuel : Nat} {t : Token} {ts : List Token} (h : t ≠ .closeObject) :
    value? (fuel + 1) (.openObject :: t :: ts) =
      (members? fuel (t :: ts)).map fun r => (.object r.1, r.2) := by
  rw [value?]
  rintro ts' ⟨⟩
  exact h rfl

mutual

/-- A document is read off the front of a token sequence that begins with its tokens. -/
theorem value?_tokens : ∀ (j : Json) (fuel : Nat) (rest : List Token),
    2 * (tokens j).length ≤ fuel → value? fuel (tokens j ++ rest) = some (j, rest)
  | .null, fuel + 1, _, _ => rfl
  | .bool _, fuel + 1, _, _ => rfl
  | .number _, fuel + 1, _, _ => rfl
  | .string _, fuel + 1, _, _ => rfl
  | .array [], fuel + 1, _, _ => rfl
  | .object [], fuel + 1, _, _ => rfl
  | .array (x :: xs), fuel + 1, rest, hf => by
      obtain ⟨t, ts, ht, open_⟩ := itemTokens_cons x xs
      have items := items?_tokens x xs fuel rest (by
        simp only [tokens, List.length_cons, List.length_append] at hf
        omega)
      rw [tokens_array_append, ht, List.cons_append, value?_openArray open_, ← List.cons_append,
        ← ht, items]
      rfl
  | .object ((k, v) :: ms), fuel + 1, rest, hf => by
      have members := members?_tokens k v ms fuel rest (by
        simp only [tokens, List.length_cons, List.length_append] at hf
        omega)
      obtain ⟨ts, ht⟩ : ∃ ts, memberTokens ((k, v) :: ms) = .string k :: ts := by
        cases ms <;> exact ⟨_, rfl⟩
      rw [tokens_object_append, ht, List.cons_append, value?_openObject (t := .string k) nofun,
        ← List.cons_append, ← ht, members]
      rfl

theorem items?_tokens : ∀ (x : Json) (xs : List Json) (fuel : Nat) (rest : List Token),
    2 * (itemTokens (x :: xs)).length + 1 ≤ fuel →
      items? fuel (itemTokens (x :: xs) ++ .closeArray :: rest) = some (x :: xs, rest)
  | x, [], fuel + 1, rest, hf => by
      have value := value?_tokens x fuel (.closeArray :: rest) (Nat.le_of_succ_le_succ hf)
      rw [itemTokens, items?, value]
  | x, y :: xs, fuel + 1, rest, hf => by
      have room := congrArg List.length (itemTokens_append x y xs [])
      simp only [List.append_nil, List.length_append, List.length_cons] at room
      have value := value?_tokens x fuel (.comma :: (itemTokens (y :: xs) ++ .closeArray :: rest))
        (by omega)
      have items := items?_tokens y xs fuel rest (by omega)
      rw [itemTokens_append, items?, value]
      dsimp only
      rw [items]
      rfl

theorem members?_tokens : ∀ (k : Option String) (v : Json) (ms : List (Option String × Json))
    (fuel : Nat) (rest : List Token), 2 * (memberTokens ((k, v) :: ms)).length + 1 ≤ fuel →
      members? fuel (memberTokens ((k, v) :: ms) ++ .closeObject :: rest) =
        some ((k, v) :: ms, rest)
  | k, v, [], fuel + 1, rest, hf => by
      have room : (memberTokens [(k, v)]).length = (tokens v).length + 2 := rfl
      have value := value?_tokens v fuel (.closeObject :: rest) (by omega)
      rw [memberTokens, List.cons_append, List.cons_append, members?, value]
  | k, v, (l, w) :: ms, fuel + 1, rest, hf => by
      have room := congrArg List.length (memberTokens_append k v (l, w) ms [])
      simp only [List.append_nil, List.length_append, List.length_cons] at room
      have value := value?_tokens v fuel
        (.comma :: (memberTokens ((l, w) :: ms) ++ .closeObject :: rest)) (by omega)
      have members := members?_tokens l w ms fuel rest (by omega)
      rw [memberTokens_append, members?, value]
      dsimp only
      rw [members]
      rfl

end

/-- **The tokens of a document are put together to the document.** -/
theorem ofTokens?_tokens (j : Json) : ofTokens? (tokens j) = some j := by
  have whole := value?_tokens j (2 * (tokens j).length) [] (Nat.le_refl _)
  rw [List.append_nil] at whole
  rw [ofTokens?, whole]

/-- **Reading a document that was laid out gives the document**: the texts in it may hold any
characters, the numerals any numbers, and lists and objects may be nested in any way, to
whatever depth is allowed. -/
theorem read?_pretty {levels : Nat} {j : Json} (h : j.readable levels = true) :
    read? j.pretty = some j := by
  rw [read?, scan_pretty h, Option.bind_some, ofTokens?_tokens]

end Json
end BoxSearch

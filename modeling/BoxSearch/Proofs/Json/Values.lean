import BoxSearch.Proofs.Json.Numerals

/-!
# Values are read as they are written

Readers that undo the constructors of output, one for each way in which a value is put
together: optional values (`option?_option`), lists (`list?_list`) and records, whose keys may
be left out (`knownMembers_record`, `Fields.optional_without`).

Whether a document is readable has two sides: what stands in it, and how deep it is nested
(`readable_iff`).
-/

namespace BoxSearch
namespace Json

/-! ## Optional values and lists -/

section

variable {α : Type} {f : α → Json} {read : Json → Option α}

/-- An optional value is read as it was written, if nothing is no value. -/
theorem option?_option (null : read .null = none) {x : Option α}
    (h : ∀ a ∈ x, read (f a) = some a) : option? read (option f x) = some x := by
  cases x with
  | none => rfl
  | some a =>
      have value := h a rfl
      have present : f a ≠ .null := by
        intro missing
        rw [missing, null] at value
        cases value
      rw [option, option?, value, Option.map_some]
      exact present

theorem mapM_map {xs : List α} (h : ∀ a ∈ xs, read (f a) = some a) :
    (xs.map f).mapM read = some xs := by
  induction xs with
  | nil => rfl
  | cons a xs ih =>
      obtain ⟨here, rest⟩ := List.forall_mem_cons.1 h
      rw [List.map_cons, List.mapM_cons, here, ih rest]
      rfl

/-- A list is read as it was written, when a level is left for it. -/
theorem list?_list {levels : Nat} (pos : levels ≠ 0) {xs : List α}
    (h : ∀ a ∈ xs, read (f a) = some a) : list? levels read (list f xs) = some xs := by
  rw [list, list?, if_neg pos, mapM_map h]

end

/-! ## Records -/

section

variable {names keys : List String} {name : String} {ms : List (String × Json)}

/-- **The members of a record are found**, each once, if all its keys are known and no key
stands in it twice. -/
theorem knownMembers_record (known : ∀ m ∈ ms, m.1 ∈ names) (distinct : (ms.map (·.1)).Nodup) :
    knownMembers names (ms.map fun m => (some m.1, m.2)) = some ms := by
  induction ms with
  | nil => rfl
  | cons m ms ih =>
      obtain ⟨k, v⟩ := m
      obtain ⟨here, rest⟩ := List.forall_mem_cons.1 known
      obtain ⟨fresh, distinct⟩ := List.nodup_cons.1 distinct
      have once : (ms.lookup k).isSome = false := by
        by_contra repeated
        obtain ⟨m, hm, same⟩ := List.lookup_isSome_iff.1 (Bool.not_eq_false _ ▸ repeated)
        exact fresh (List.mem_map.2 ⟨m, hm, (beq_iff_eq.1 same).symm⟩)
      rw [List.map_cons, knownMembers, ih rest distinct]
      simp only [bind, Option.bind, List.contains_iff_mem.2 here, if_true, once]
      rfl

/-- The members of a record without those under the given keys. -/
def Fields.without (keys : List String) (fields : Fields) : Fields :=
  fields.filter fun m => !keys.contains m.1

theorem Fields.lookup_without (fields : Fields) :
    (fields.without keys).lookup name =
      if keys.contains name then none else fields.lookup name := by
  unfold without
  induction fields with
  | nil => simp
  | cons m fields ih =>
      obtain ⟨k, v⟩ := m
      rw [List.filter_cons, List.lookup_cons]
      by_cases same : name = k
      · subst same
        cases removed : keys.contains name with
        | true =>
            rw [removed] at ih
            exact ih
        | false =>
            rw [beq_self_eq_true]
            exact List.lookup_cons_self
      · have other : (name == k) = false := beq_false_of_ne same
        rw [other]
        split
        · rw [List.lookup_cons, other]
          exact ih
        · exact ih

/-- **A member that is left out has its default**, and one that is not has its value. -/
theorem Fields.optional_without {α : Type} {fields : Fields} {j : Json} {default a : α}
    {read : Json → Option α} (found : fields.lookup name = some j) (value : read j = some a) :
    (fields.without keys).optional name default read =
      some (if keys.contains name then default else a) := by
  rw [optional, lookup_without, found]
  cases keys.contains name with
  | true => rfl
  | false => exact value

end

/-! ## Readable documents -/

mutual

/-- Whether every number of a document stands for something, and every text is readable. -/
def legible : Json → Bool
  | .null => true
  | .bool _ => true
  | .number text => (number? (.number text)).isSome
  | .string text => text.isSome
  | .array items => legibleItems items
  | .object members => legibleMembers members

/-- Whether all items are legible. -/
def legibleItems : List Json → Bool
  | [] => true
  | x :: xs => legible x && legibleItems xs

/-- Whether all keys and values are legible. -/
def legibleMembers : List (Option String × Json) → Bool
  | [] => true
  | (k, v) :: ms => k.isSome && legible v && legibleMembers ms

end

mutual

/-- How deep lists and objects are nested in a document. -/
def depth : Json → Nat
  | .array items => depthItems items + 1
  | .object members => depthMembers members + 1
  | _ => 0

/-- The depth of the deepest item. -/
def depthItems : List Json → Nat
  | [] => 0
  | x :: xs => max (depth x) (depthItems xs)

/-- The depth of the deepest value. -/
def depthMembers : List (Option String × Json) → Nat
  | [] => 0
  | (_, v) :: ms => max (depth v) (depthMembers ms)

end

mutual

/-- **A document is readable if it is legible and not nested too deep.** -/
theorem readable_iff : ∀ (levels : Nat) (j : Json),
    j.readable levels = true ↔ j.legible = true ∧ j.depth ≤ levels
  | _, .null => by simp [readable, legible, depth]
  | _, .bool _ => by simp [readable, legible, depth]
  | _, .number _ => by simp [readable, legible, depth]
  | _, .string _ => by simp [readable, legible, depth]
  | 0, .array _ => by simp [readable, legible, depth]
  | levels + 1, .array xs => by
      rw [readable, legible, depth, readableItems_iff levels xs, Nat.succ_le_succ_iff]
  | 0, .object _ => by simp [readable, legible, depth]
  | levels + 1, .object ms => by
      rw [readable, legible, depth, readableMembers_iff levels ms, Nat.succ_le_succ_iff]

theorem readableItems_iff : ∀ (levels : Nat) (xs : List Json),
    readableItems levels xs = true ↔ legibleItems xs = true ∧ depthItems xs ≤ levels
  | levels, [] => by simp [readableItems, legibleItems, depthItems]
  | levels, x :: xs => by
      rw [readableItems, legibleItems, depthItems, Bool.and_eq_true, Bool.and_eq_true,
        readable_iff levels x, readableItems_iff levels xs, Nat.max_le, and_and_and_comm]

theorem readableMembers_iff : ∀ (levels : Nat) (ms : List (Option String × Json)),
    readableMembers levels ms = true ↔ legibleMembers ms = true ∧ depthMembers ms ≤ levels
  | levels, [] => by simp [readableMembers, legibleMembers, depthMembers]
  | levels, (k, v) :: ms => by
      rw [readableMembers, legibleMembers, depthMembers, Bool.and_eq_true, Bool.and_eq_true,
        Bool.and_eq_true, Bool.and_eq_true, readable_iff levels v, readableMembers_iff levels ms,
        Nat.max_le]
      constructor
      · rintro ⟨⟨hk, hv, dv⟩, hms, dms⟩
        exact ⟨⟨⟨hk, hv⟩, hms⟩, dv, dms⟩
      · rintro ⟨⟨⟨hk, hv⟩, hms⟩, dv, dms⟩
        exact ⟨⟨hk, hv, dv⟩, hms, dms⟩

end

/-! ### What stands in a document -/

section

variable {j : Json} {ms : List (String × Json)} {n : Nat}

theorem legible_of_number? {v : Number} (h : j.number? = some v) : j.legible = true := by
  cases j with
  | number text => exact Option.isSome_iff_exists.2 ⟨v, h⟩
  | _ => cases h

theorem legible_of_float? {x : Float} (h : j.float? = some x) : j.legible = true := by
  cases hj : j.number? with
  | some v => exact legible_of_number? hj
  | none =>
      rw [float?, hj] at h
      cases h

theorem legible_nat (h : n < UInt64.size) : (nat n).legible = true :=
  legible_of_number? (number?_nat h)

theorem legibleItems_iff {xs : List Json} :
    legibleItems xs = true ↔ ∀ x ∈ xs, x.legible = true := by
  induction xs with
  | nil => simp [legibleItems]
  | cons x xs ih => rw [legibleItems, Bool.and_eq_true, ih, List.forall_mem_cons]

theorem legible_list {α : Type} {f : α → Json} {xs : List α} (h : ∀ a ∈ xs, (f a).legible = true) :
    (list f xs).legible = true := by
  rw [list, legible, legibleItems_iff]
  exact List.forall_mem_map.2 h

theorem legible_option {α : Type} {f : α → Json} {x : Option α}
    (h : ∀ a ∈ x, (f a).legible = true) : (option f x).legible = true := by
  cases x with
  | none => rfl
  | some a => exact h a rfl

theorem legible_record_iff : (record ms).legible = true ↔ ∀ m ∈ ms, m.2.legible = true := by
  rw [record, legible]
  induction ms with
  | nil => simp [legibleMembers]
  | cons m ms ih =>
      rw [List.map_cons, legibleMembers, Bool.and_eq_true, ih, List.forall_mem_cons]
      simp

theorem depth_record_le_iff : (record ms).depth ≤ n + 1 ↔ ∀ m ∈ ms, m.2.depth ≤ n := by
  rw [record, depth, Nat.succ_le_succ_iff]
  induction ms with
  | nil => simp [depthMembers]
  | cons m ms ih => rw [List.map_cons, depthMembers, Nat.max_le, ih, List.forall_mem_cons]

end

end Json
end BoxSearch

import BoxSearch.Proofs.Config.Criteria
import BoxSearch.Proofs.Json.Reading

/-!
# Configurations are read as they are written

The text of a configuration is its document laid out, and reading the text gives the
configuration back.  Keys may be taken out of the document before it is read: then the
settings under these keys are the standard ones, and nothing else changes.

* `Config.forget` — the configuration without what it says under some keys;
* `Json.without` — the document without these keys;
* `Json.config?_without` — what a reader makes of such a document;
* `Config.ofText_without` — the same of texts.
-/

namespace BoxSearch

/-! ## The numbers of a configuration -/

/-- The doubles in a mutation setting. -/
def Mutation.floats : Mutation Float → List Float
  | .factor f => [f]
  | .range low high => [low, high]

namespace Config

/-- The counts in a configuration. -/
def counts (c : Config) : List Nat :=
  c.populationSize.toList ++ c.threads.toList ++ c.maxGenerations.toList ++
    c.maxEvaluations.toList ++ c.criterion.tests.flatMap Test.counts

/-- The doubles in a configuration. -/
def floats (c : Config) : List Float :=
  c.mutation.floats ++ c.rate :: c.guess.getD [] ++ c.criterion.tests.flatMap Test.floats

/-- The numbers of a configuration are found again when what was written of them is read. -/
structure Recorded (c : Config) : Prop where
  populationSize : ∀ n ∈ c.populationSize, n < UInt64.size
  threads : ∀ n ∈ c.threads, n < UInt64.size
  maxGenerations : ∀ n ∈ c.maxGenerations, n < UInt64.size
  maxEvaluations : ∀ n ∈ c.maxEvaluations, n < UInt64.size
  mutation : ∀ x ∈ c.mutation.floats, ReadsBack x
  rate : ReadsBack c.rate
  guess : ∀ xs ∈ c.guess, ∀ x ∈ xs, ReadsBack x
  criterion : ∀ t ∈ c.criterion.tests, t.Recorded

theorem recorded {c : Config} (counts : ∀ n ∈ c.counts, n < UInt64.size)
    (floats : ∀ x ∈ c.floats, ReadsBack x) : c.Recorded := by
  simp only [Config.counts, List.forall_mem_append, Option.mem_toList] at counts
  simp only [Config.floats, List.forall_mem_append, List.forall_mem_cons] at floats
  obtain ⟨⟨⟨⟨populationSize, threads⟩, maxGenerations⟩, maxEvaluations⟩, testCounts⟩ := counts
  obtain ⟨⟨mutation, rate, guess⟩, testFloats⟩ := floats
  refine ⟨populationSize, threads, maxGenerations, maxEvaluations, mutation, rate, ?_, ?_⟩
  · intro xs hxs
    rw [Option.mem_def.1 hxs] at guess
    exact guess
  · intro t ht
    exact ⟨fun n hn => testCounts n (List.mem_flatMap.2 ⟨t, ht, hn⟩),
      fun x hx => testFloats x (List.mem_flatMap.2 ⟨t, ht, hx⟩)⟩

/-- The configuration with the standard settings under the given keys. -/
def forget (keys : List String) (c : Config) : Config where
  populationSize :=
    if keys.contains "population_size" then standard.populationSize else c.populationSize
  seed := if keys.contains "seed" then standard.seed else c.seed
  variant := if keys.contains "strategy" then standard.variant else c.variant
  mutation := if keys.contains "mutation" then standard.mutation else c.mutation
  rate := if keys.contains "recombination" then standard.rate else c.rate
  init := if keys.contains "init" then standard.init else c.init
  criterion := if keys.contains "termination" then standard.criterion else c.criterion
  map := if keys.contains "map" then standard.map else c.map
  threads := if keys.contains "num_threads" then standard.threads else c.threads
  maxGenerations :=
    if keys.contains "max_generations" then standard.maxGenerations else c.maxGenerations
  maxEvaluations :=
    if keys.contains "max_evaluations" then standard.maxEvaluations else c.maxEvaluations
  integrality := if keys.contains "integrality" then standard.integrality else c.integrality
  guess := if keys.contains "x0" then standard.guess else c.guess

theorem forget_nil (c : Config) : c.forget [] = c := rfl

end Config

namespace Json

/-! ## Settings -/

theorem float?_float {x : Float} (h : ReadsBack x) : (float x).float? = some x := h

theorem variant?_ofVariant (v : Variant) : variant? (ofVariant v) = some v := by
  obtain ⟨formula, crossover⟩ := v
  cases formula <;> cases crossover <;> decide +kernel

theorem init?_ofInit (levels : Nat) (i : Init) : init? levels (ofInit i) = some i := by
  cases i <;> rfl

theorem map?_ofMap (levels : Nat) (m : MapKind) : map? levels (ofMap m) = some m := by
  cases m <;> rfl

theorem seed?_nat (s : UInt64) : ((nat s.toNat).nat?.map UInt64.ofNat) = some s := by
  rw [nat?_nat s.toNat_lt, Option.map_some, UInt64.ofNat_toNat]

theorem mutation?_ofMutation {levels : Nat} (deep : 2 ≤ levels) {m : Mutation Float}
    (h : ∀ x ∈ m.floats, ReadsBack x) : mutation? levels (ofMutation m) = some m := by
  obtain ⟨levels, rfl⟩ := Nat.exists_eq_add_of_le' deep
  cases m with
  | factor f =>
      have hf := float?_float (h f (List.mem_singleton_self f))
      simp [ofMutation, record, mutation?, tag?, hf]
  | range low high =>
      have hl := float?_float (h low (List.mem_cons_self ..))
      have hh := float?_float (h high (List.mem_cons_of_mem low (List.mem_singleton_self high)))
      have tag : (ofMutation (.range low high)).tag? (levels + 2) =
          some ("range", .record [("min", .float low), ("max", .float high)]) := rfl
      have ends := fields?_pair (by decide : "min" ≠ "max") (float low) (float high)
      rw [mutation?, tag]
      simp [record?, ends, Fields.required, List.lookup_cons, hl, hh]

/-! ## The document of a configuration -/

/-- The document without its members under the given keys. -/
def without (keys : List String) : Json → Json
  | .object members => .object (members.filter fun m => !m.1.any keys.contains)
  | j => j

theorem without_record (keys : List String) (ms : List (String × Json)) :
    (record ms).without keys = .record (Fields.without keys ms) := by
  rw [record, without, record, Fields.without, List.filter_map]
  rfl

/-- The settings of a configuration under their keys. -/
def configMembers (c : Config) : List (String × Json) :=
  configKeys.zip
    [.option nat c.populationSize, .option (fun s => nat s.toNat) c.seed, ofVariant c.variant,
      ofMutation c.mutation, float c.rate, ofInit c.init, ofCriterion c.criterion,
      ofMap c.map, .option nat c.threads, .option nat c.maxGenerations,
      .option nat c.maxEvaluations, .option (.list .bool) c.integrality,
      .option (.list float) c.guess]

theorem ofConfig_eq (c : Config) : ofConfig c = .record (configMembers c) := rfl

theorem record?_without {levels : Nat} (deep : levels ≠ 0) (keys : List String) (c : Config) :
    record? levels configKeys ((ofConfig c).without keys) =
      some (Fields.without keys (configMembers c)) := by
  have kept : (Fields.without keys (configMembers c)).Sublist (configMembers c) :=
    List.filter_sublist
  have names : (configMembers c).map (·.1) = configKeys := rfl
  rw [ofConfig_eq, without_record, record?, if_neg deep]
  refine knownMembers_record (fun m hm => ?_) ?_
  · rw [← names]
    exact List.mem_map_of_mem (kept.subset hm)
  · have distinct : ((configMembers c).map (·.1)).Nodup := by
      rw [names]
      decide
    exact distinct.sublist (kept.map _)

/-- **Settings that are left out are the standard ones**, and the others are read as they were
written. -/
theorem config?_without {levels : Nat} (deep : 3 ≤ levels) {c : Config} (h : c.Recorded)
    (hd : (ofConfig c).depth ≤ levels) (keys : List String) :
    config? levels ((ofConfig c).without keys) = some (c.forget keys) := by
  have criterion : (ofCriterion c.criterion).depth ≤ levels - 1 := by
    obtain ⟨levels, rfl⟩ := Nat.exists_eq_add_of_le' deep
    rw [ofConfig_eq] at hd
    exact depth_record_le_iff.1 hd ("termination", ofCriterion c.criterion)
      (List.mem_iff_getElem?.2 ⟨6, rfl⟩)
  have count {x : Option Nat} (hx : ∀ n ∈ x, n < UInt64.size) :
      option? nat? (.option nat x) = some x := option?_option rfl fun n hn => nat?_nat (hx n hn)
  have seed : option? (fun j => j.nat?.map UInt64.ofNat) (.option (fun s => nat s.toNat) c.seed) =
      some c.seed := option?_option rfl fun s _ => seed?_nat s
  have mask : option? (list? (levels - 1) bool?) (.option (.list .bool) c.integrality) =
      some c.integrality :=
    option?_option rfl fun bs _ => list?_list (by omega) fun b _ => rfl
  have guess : option? (list? (levels - 1) float?) (.option (.list float) c.guess) = some c.guess :=
    option?_option rfl fun xs hxs => list?_list (by omega) (h.guess xs hxs)
  have member {α : Type} {j : Json} {read : Json → Option α} {default a : α} (name : String)
      (found : (configMembers c).lookup name = some j) (value : read j = some a) :
      (Fields.without keys (configMembers c)).optional name default read =
        some (if keys.contains name then default else a) := Fields.optional_without found value
  -- one line for each key, in the order in which the reader asks for them
  simp only [config?, record?_without (by omega : levels ≠ 0), bind, Option.bind,
    member "population_size" rfl (count h.populationSize),
    member "seed" rfl seed,
    member "strategy" rfl (variant?_ofVariant c.variant),
    member "mutation" rfl (mutation?_ofMutation (by omega : 2 ≤ levels - 1) h.mutation),
    member "recombination" rfl (float?_float h.rate),
    member "init" rfl (init?_ofInit (levels - 1) c.init),
    member "termination" rfl (criterion?_ofCriterion criterion h.criterion),
    member "map" rfl (map?_ofMap (levels - 1) c.map),
    member "num_threads" rfl (count h.threads),
    member "max_generations" rfl (count h.maxGenerations),
    member "max_evaluations" rfl (count h.maxEvaluations),
    member "integrality" rfl mask,
    member "x0" rfl guess]
  rfl

theorem legible_ofMutation {m : Mutation Float} (h : ∀ x ∈ m.floats, ReadsBack x) :
    (ofMutation m).legible = true := by
  have real {x : Float} (hx : x ∈ m.floats) : (float x).legible = true := legible_of_float? (h x hx)
  cases m with
  | factor f =>
      exact legible_record_iff.2 (List.forall_mem_singleton.2 (real (List.mem_singleton_self f)))
  | range low high =>
      have hl := real (List.mem_cons_self (a := low) (l := [high]))
      have hh := real (List.mem_cons_of_mem low (List.mem_singleton_self high))
      have ends : (record [("min", float low), ("max", float high)]).legible = true :=
        legible_record_iff.2 (List.forall_mem_cons.2 ⟨hl, List.forall_mem_singleton.2 hh⟩)
      exact legible_record_iff.2 (List.forall_mem_singleton.2 ends)

/-- All that stands in the document of a configuration can be read. -/
theorem legible_configMembers {c : Config} (h : c.Recorded) :
    ∀ m ∈ configMembers c, m.2.legible = true := by
  have count {x : Option Nat} (hx : ∀ n ∈ x, n < UInt64.size) : (option nat x).legible = true :=
    legible_option fun n hn => legible_nat (hx n hn)
  have seed : (option (fun s : UInt64 => nat s.toNat) c.seed).legible = true :=
    legible_option fun s _ => legible_nat s.toNat_lt
  have mask : (option (list bool) c.integrality).legible = true :=
    legible_option fun bs _ => legible_list fun b _ => rfl
  have guess : (option (list float) c.guess).legible = true :=
    legible_option fun xs hxs => legible_list fun x hx => legible_of_float? (h.guess xs hxs x hx)
  intro m hm
  -- a member stands under one of the keys, and its value is one of the thirteen
  have value := (List.of_mem_zip hm).2
  generalize m.2 = j at value ⊢
  revert j
  simp only [List.forall_mem_cons]
  exact ⟨count h.populationSize, seed, rfl, legible_ofMutation h.mutation,
    legible_of_float? h.rate, rfl, legible_ofCriterion _ h.criterion, rfl, count h.threads,
    count h.maxGenerations, count h.maxEvaluations, mask, guess, nofun⟩

theorem readable_without {levels : Nat} (deep : levels ≠ 0) {c : Config} (h : c.Recorded)
    (hd : (ofConfig c).depth ≤ levels) (keys : List String) :
    ((ofConfig c).without keys).readable levels = true := by
  obtain ⟨levels, rfl⟩ := Nat.exists_eq_succ_of_ne_zero deep
  have kept : ∀ m ∈ Fields.without keys (configMembers c), m ∈ configMembers c := fun m hm =>
    (List.mem_filter.1 hm).1
  rw [ofConfig_eq] at hd ⊢
  rw [without_record, readable_iff, legible_record_iff]
  exact ⟨fun m hm => legible_configMembers h m (kept m hm),
    depth_record_le_iff.2 fun m hm => depth_record_le_iff.1 hd m (kept m hm)⟩

end Json

/-! ## Texts -/

namespace Config

/-- **A configuration is found again in its text**, and with the standard settings under the
keys that were taken out of it.  Take any configuration with counts of 64 bits and finite
doubles, each of which is read as the number that was written; with any seed, any tree of
tests that is not nested too deep for the reader, any mask and any start point.  Reading its
text gives the configuration.  And take any keys out of its document, and then any text of
what is left, such as the laid-out one: reading it gives the configuration with the standard
setting under each of these keys and its own under all others. -/
theorem ofText_without (c : Config) (counts : ∀ n ∈ c.counts, n < UInt64.size)
    (finite : ∀ x ∈ c.floats, Double.isFinite x = true)
    (reread : ∀ x ∈ c.floats, Double.isFinite x = true → ReadsBack x)
    (nested : (Json.ofConfig c).depth ≤ Json.maxLevels) :
    ofText c.toText = .ok c ∧
      ∀ keys, ofText ((Json.ofConfig c).without keys).pretty = .ok (c.forget keys) ∧
        ∀ text, Json.read? text = some ((Json.ofConfig c).without keys) →
          ofText text = .ok (c.forget keys) := by
  have recorded := Config.recorded counts fun x hx => reread x hx (finite x hx)
  have read (keys : List String) (text : String)
      (h : Json.read? text = some ((Json.ofConfig c).without keys)) :
      ofText text = .ok (c.forget keys) := by
    rw [ofText, h, Option.bind_some, Json.config?_without (by decide) recorded nested]
  have written (keys : List String) :
      Json.read? ((Json.ofConfig c).without keys).pretty = some ((Json.ofConfig c).without keys) :=
    Json.read?_pretty (Json.readable_without (by decide) recorded nested keys)
  have whole : (Json.ofConfig c).without [] = Json.ofConfig c := rfl
  refine ⟨?_, fun keys => ⟨read keys _ (written keys), read keys⟩⟩
  have text := read [] c.toText
  rw [forget_nil, whole] at text
  exact text (whole ▸ written [])

/-! ### Members inside members -/

/-- A configuration in which every key says something. -/
def elaborate : Config where
  populationSize := some 40
  seed := some 18446744073709551615
  variant := ⟨.randToBest1, .exponential⟩
  mutation := .range 0.5 1.0
  rate := 0.9
  init := .random
  criterion := .any [.all [.test (.maxGenerations 10), .test (.collapse 1e-8 0.001), .any []],
    .test (.change 0.000001 25), .test .never]
  map := .workerPool
  threads := some 3
  maxGenerations := none
  maxEvaluations := some 5000
  integrality := some [true, false]
  guess := some [0.1, -2.5]

/-- It is found again in its text; and without its seed, its mutation and its criterion, it
has the standard ones. -/
theorem ofText_elaborate :
    ofText elaborate.toText = .ok elaborate ∧
      ofText ((Json.ofConfig elaborate).without ["seed", "mutation", "termination"]).pretty =
        .ok { elaborate with seed := none, mutation := .factor 0.8, criterion := .standard } := by
  have counts : ∀ n ∈ elaborate.counts, n < UInt64.size := by decide +kernel
  have finite : ∀ x ∈ elaborate.floats, Double.isFinite x = true := by decide +kernel
  have reread : ∀ x ∈ elaborate.floats, Double.isFinite x = true → ReadsBack x := by
    unfold ReadsBack
    decide +kernel
  obtain ⟨whole, part⟩ := ofText_without elaborate counts finite reread (by decide +kernel)
  exact ⟨whole, (part ["seed", "mutation", "termination"]).1⟩

end Config
end BoxSearch

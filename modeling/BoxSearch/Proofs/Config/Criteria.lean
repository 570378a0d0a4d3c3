import BoxSearch.Config.Document
import BoxSearch.Proofs.Json.Values

/-!
# Criteria are read as they are written

A criterion is written as an object with its kind and its settings, and the members of `any`
and `all` are objects of this sort again.  The reader takes the kind off first
(`splitKind_record`), and then looks for the settings that belong to it.

* `Test.Recorded` — the numbers of a test survive being written;
* `test?_testFields` — the settings of each kind of test are found again;
* `criterionFrom?_ofCriterion` — so are whole trees, by induction on the tree, as long as the
  reader may enter as many levels as the document has.
-/

namespace BoxSearch

/-! ## Numbers -/

/-- A double that is found again when what was written of it is read.  Reading rounds twice,
so this does not hold of every double. -/
def ReadsBack (x : Float) : Prop := (Json.float x).float? = some x

/-- The counts in a test. -/
def Test.counts : Test → List Nat
  | .maxGenerations n | .maxEvaluations n | .stagnation n => [n]
  | .change _ n | .relativeChange _ n => [n]
  | .valueToReach _ | .collapse .. | .energyDeviation .. | .never => []

/-- The doubles in a test. -/
def Test.floats : Test → List Float
  | .valueToReach x | .change x _ | .relativeChange x _ => [x]
  | .collapse x y | .energyDeviation x y => [x, y]
  | .maxGenerations _ | .maxEvaluations _ | .stagnation _ | .never => []

/-- The numbers of a test are found again when what was written of them is read. -/
structure Test.Recorded (t : Test) : Prop where
  counts : ∀ n ∈ t.counts, n < UInt64.size
  floats : ∀ x ∈ t.floats, ReadsBack x

mutual

/-- The tests of a criterion, from left to right. -/
def Criterion.tests : Criterion → List Test
  | .test t => [t]
  | .any cs => testsOf cs
  | .all cs => testsOf cs

/-- The tests of several criteria. -/
def Criterion.testsOf : List Criterion → List Test
  | [] => []
  | c :: cs => tests c ++ testsOf cs

end

namespace Json

/-! ## Tests -/

/-- The kind of a test. -/
def testKind : Test → String
  | .maxGenerations _ => "max_generations"
  | .maxEvaluations _ => "max_evaluations"
  | .valueToReach _ => "vtr"
  | .change .. => "change_over_generation"
  | .relativeChange .. => "normalized_change_over_generation"
  | .collapse .. => "candidate_relative_tolerance"
  | .energyDeviation .. => "population_energy_std"
  | .stagnation _ => "stagnation"
  | .never => "never"

/-- The settings of a test, without its kind. -/
def testFields : Test → List (String × Json)
  | .maxGenerations n => [("generations", nat n)]
  | .maxEvaluations n => [("evaluations", nat n)]
  | .valueToReach x => [("target", float x)]
  | .change x n => [("tolerance", float x), ("generations", nat n)]
  | .relativeChange x n => [("tolerance", float x), ("generations", nat n)]
  | .collapse x f => [("xtol", float x), ("ftol", float f)]
  | .energyDeviation t a => [("tol", float t), ("atol", float a)]
  | .stagnation n => [("generations", nat n)]
  | .never => []

theorem ofTest_eq (t : Test) :
    ofTest t = .record (("kind", text (testKind t)) :: testFields t) := by
  cases t <;> rfl

section

variable {inner : Bool} {kind : String} {ms : List (String × Json)} {levels : Nat}

/-- The kind of a criterion is taken off, and the rest stays. -/
theorem splitKind_record (known : kind ∈ criterionKinds) (other : ∀ m ∈ ms, m.1 ≠ "kind") :
    splitKind inner (.record (("kind", text kind) :: ms)) = some (kind, .record ms) := by
  have rest : ∀ m ∈ ms.map fun m => (some m.1, m.2), (m.1 == some "kind") = false := by
    intro m hm
    obtain ⟨n, hn, rfl⟩ := List.mem_map.1 hm
    simpa using other n hn
  have named : ((some "kind", text kind) :: ms.map fun m => (some m.1, m.2)).partition
      (·.1 == some "kind") = ([(some "kind", text kind)], ms.map fun m => (some m.1, m.2)) := by
    rw [List.partition_eq_filter_filter, List.filter_cons_of_pos rfl,
      List.filter_cons_of_neg (by simp), List.filter_eq_nil_iff.2 (by simpa using rest),
      List.filter_eq_self.2 (by simpa using rest)]
  have spelled : kind? inner (text kind) = some kind := by
    simp only [kind?, text?, text, List.contains_iff_mem.2 known, if_true]
  rw [record, List.map_cons, splitKind]
  simp only [named, spelled, Option.map_some]
  rfl

/-- A record with two settings is read setting by setting. -/
theorem fields?_pair {first second : String} (different : first ≠ second) (j k : Json) :
    fields? [first, second] (.record [(first, j), (second, k)]) =
      some [(first, j), (second, k)] := by
  have known : ∀ m ∈ [(first, j), (second, k)], m.1 ∈ [first, second] := by simp
  exact knownMembers_record known (by simpa using different)

theorem fields?_single (name : String) (j : Json) :
    fields? [name] (.record [(name, j)]) = some [(name, j)] := by
  have known : ∀ m ∈ [(name, j)], m.1 ∈ [name] := by simp
  exact knownMembers_record known (by simp)

/-- **The settings of a test are found again.** -/
theorem test?_testFields {t : Test} (h : t.Recorded) :
    test? (testKind t) (.record (testFields t)) = some t := by
  have count {n : Nat} (hn : n ∈ t.counts) : (nat n).nat? = some n := nat?_nat (h.counts n hn)
  have real {x : Float} (hx : x ∈ t.floats) : (float x).float? = some x := h.floats x hx
  cases t with
  | never => rfl
  | maxGenerations n | maxEvaluations n | stagnation n =>
      have hn := count (List.mem_singleton_self n)
      simp [testKind, testFields, test?, fields?_single, Fields.required, hn]
  | valueToReach x =>
      have hx := real (List.mem_singleton_self x)
      simp [testKind, testFields, test?, fields?_single, Fields.required, hx]
  | change x n | relativeChange x n =>
      have hn := count (List.mem_singleton_self n)
      have hx := real (List.mem_singleton_self x)
      simp [testKind, testFields, test?, fields?_pair, Fields.required, List.lookup_cons, hn, hx]
  | collapse x y | energyDeviation x y =>
      have hx := real (List.mem_cons_self (a := x) (l := [y]))
      have hy := real (List.mem_cons_of_mem x (List.mem_singleton_self y))
      simp [testKind, testFields, test?, fields?_pair, Fields.required, List.lookup_cons, hx, hy]

theorem testKind_mem (t : Test) : testKind t ∈ criterionKinds := by
  cases t <;> simp [testKind, criterionKinds]

theorem testKind_ne (t : Test) : testKind t ≠ "any" ∧ testKind t ≠ "all" := by
  cases t <;> simp [testKind]

theorem testFields_ne_kind (t : Test) : ∀ m ∈ testFields t, m.1 ≠ "kind" := by
  cases t <;> simp [testFields]

theorem criterionFrom?_ofTest {t : Test} (h : t.Recorded) :
    criterionFrom? (levels + 1) inner (ofTest t) = some (.test t) := by
  obtain ⟨any, all⟩ := testKind_ne t
  rw [ofTest_eq, criterionFrom?, splitKind_record (testKind_mem t) (testFields_ne_kind t)]
  simp only [bind, Option.bind, if_neg any, if_neg all, test?_testFields h]

theorem legible_ofTest {t : Test} (h : t.Recorded) : (ofTest t).legible = true := by
  have count {n : Nat} (hn : n ∈ t.counts) : (nat n).legible = true := legible_nat (h.counts n hn)
  have real {x : Float} (hx : x ∈ t.floats) : (float x).legible = true :=
    legible_of_float? (h.floats x hx)
  rw [ofTest_eq, legible_record_iff, List.forall_mem_cons]
  refine ⟨rfl, ?_⟩
  cases t with
  | never => exact nofun
  | maxGenerations n | maxEvaluations n | stagnation n =>
      exact List.forall_mem_singleton.2 (count (List.mem_singleton_self n))
  | valueToReach x => exact List.forall_mem_singleton.2 (real (List.mem_singleton_self x))
  | change x n | relativeChange x n =>
      exact List.forall_mem_cons.2 ⟨real (List.mem_singleton_self x),
        List.forall_mem_singleton.2 (count (List.mem_singleton_self n))⟩
  | collapse x y | energyDeviation x y =>
      exact List.forall_mem_cons.2 ⟨real (List.mem_cons_self ..),
        List.forall_mem_singleton.2 (real (List.mem_cons_of_mem x (List.mem_singleton_self y)))⟩

/-! ## Trees -/

theorem branches?_criteria (js : List Json) :
    branches? (.record [("criteria", .array js)]) = some js := by
  rw [branches?, fields?_single]
  rfl

theorem depth_branches {js : List Json}
    (h : (record [("kind", text kind), ("criteria", .array js)]).depth ≤ levels + 1) :
    depthItems js ≤ levels := by
  have items : depthItems js + 1 ≤ levels :=
    depth_record_le_iff.1 h ("criteria", .array js) (by simp)
  exact Nat.le_of_succ_le items

theorem depth_ofCriterion_pos (c : Criterion) : 0 < (ofCriterion c).depth := by
  cases c with
  | test t =>
      rw [ofCriterion, ofTest_eq]
      exact Nat.succ_pos _
  | any cs => exact Nat.succ_pos _
  | all cs => exact Nat.succ_pos _

mutual

/-- **A criterion is found again**, however its tests are nested, when the reader may enter
as many levels as its document has. -/
theorem criterionFrom?_ofCriterion : ∀ (levels : Nat) (inner : Bool) (c : Criterion),
    (ofCriterion c).depth ≤ levels → (∀ t ∈ c.tests, t.Recorded) →
      criterionFrom? levels inner (ofCriterion c) = some c
  | 0, _, c, hd, _ => absurd (depth_ofCriterion_pos c) (Nat.not_lt.2 hd)
  | levels + 1, inner, .test t, _, h => criterionFrom?_ofTest (h t (List.mem_singleton_self t))
  | levels + 1, inner, .any cs, hd, h => by
      have members := mapM_ofCriteria levels cs (depth_branches hd) h
      rw [ofCriterion, criterionFrom?, splitKind_record (by decide) (by simp)]
      simp only [bind, Option.bind, if_true, branches?_criteria, members]
  | levels + 1, inner, .all cs, hd, h => by
      have members := mapM_ofCriteria levels cs (depth_branches hd) h
      rw [ofCriterion, criterionFrom?, splitKind_record (by decide) (by simp)]
      simp [branches?_criteria, members]

theorem mapM_ofCriteria : ∀ (levels : Nat) (cs : List Criterion),
    depthItems (ofCriteria cs) ≤ levels → (∀ t ∈ Criterion.testsOf cs, t.Recorded) →
      (ofCriteria cs).mapM (criterionFrom? levels true) = some cs
  | levels, [], _, _ => rfl
  | levels, c :: cs, hd, h => by
      rw [ofCriteria, depthItems, Nat.max_le] at hd
      rw [Criterion.testsOf, List.forall_mem_append] at h
      rw [ofCriteria, List.mapM_cons, criterionFrom?_ofCriterion levels true c hd.1 h.1,
        mapM_ofCriteria levels cs hd.2 h.2]
      rfl

end

mutual

/-- Everything in the document of a criterion can be read. -/
theorem legible_ofCriterion : ∀ c : Criterion, (∀ t ∈ c.tests, t.Recorded) →
    (ofCriterion c).legible = true
  | .test t, h => legible_ofTest (h t (List.mem_singleton_self t))
  | .any cs, h => by
      rw [ofCriterion, legible_record_iff]
      simp [text, legible, legibleItems_ofCriteria cs h]
  | .all cs, h => by
      rw [ofCriterion, legible_record_iff]
      simp [text, legible, legibleItems_ofCriteria cs h]

theorem legibleItems_ofCriteria : ∀ cs : List Criterion,
    (∀ t ∈ Criterion.testsOf cs, t.Recorded) → legibleItems (ofCriteria cs) = true
  | [], _ => rfl
  | c :: cs, h => by
      rw [Criterion.testsOf, List.forall_mem_append] at h
      rw [ofCriteria, legibleItems, legible_ofCriterion c h.1, legibleItems_ofCriteria cs h.2]
      rfl

end

/-- A reader of criteria finds the criterion in its document. -/
theorem criterion?_ofCriterion {c : Criterion} (hd : (ofCriterion c).depth ≤ levels)
    (h : ∀ t ∈ c.tests, t.Recorded) : criterion? levels (ofCriterion c) = some c := by
  rw [criterion?, if_pos ((readable_iff _ _).2 ⟨legible_ofCriterion c h, hd⟩),
    criterionFrom?_ofCriterion levels false c hd h]

end

end Json
end BoxSearch

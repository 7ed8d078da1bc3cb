import Atlas.Reputation.Networks
import Mathlib.Algebra.BigOperators.Group.List.Basic
import Mathlib.Algebra.Order.BigOperators.GroupWithZero.List
import Mathlib.Tactic.GCongr
import Mathlib.Tactic.NormNum
import Mathlib.Tactic.Ring

/-! # Better scores

A better score of a feature can make a transaction a success, and can give the feature one more
credit. On one side of the threshold neither lowers the reputation. But a success also raises the
number every feature is measured against, and a feature whose own score is not good gains nothing,
so the step over the threshold can lower the product of the shares. With `S` successful transactions
and the counters `f` of the `k` features before, and `c` credits, the reputation does not fall
exactly if `S * (S + 1) ^ k * ∏ f ≤ (S + 1) * S ^ k * ∏ (f + c)`.

Reference: `reputation_impl/AtlasReputation_NaiveBayes.cpp`.
-/

namespace Atlas.Reputation.AtlasDeviceFeatureManager

variable {manager : AtlasDeviceFeatureManager} {feedbackMatrix : FeedbackMatrix}

/-! ## The reputation as a product -/

/-- The weighted score of a feedback matrix. -/
def satisfactionScore (manager : AtlasDeviceFeatureManager) (feedbackMatrix : FeedbackMatrix) : ℚ :=
  (feedbackMatrix.map fun entry => entry.2 * manager.weight entry.1).sum

theorem foldl_score (weight : AtlasDeviceFeatureType → ℚ) (feedbackMatrix : FeedbackMatrix)
    (a : ℚ) :
    feedbackMatrix.foldl (fun score entry => score + entry.2 * weight entry.1) a =
      a + (feedbackMatrix.map fun entry => entry.2 * weight entry.1).sum := by
  induction feedbackMatrix generalizing a with
  | nil => simp
  | cons entry rest ih => rw [List.foldl_cons, ih, List.map_cons, List.sum_cons, add_assoc]

/-- The product of the shares of counters among `n` transactions. -/
def shares (n : ℕ) (counters : List ℕ) : ℚ := (counters.map fun f : ℕ => (f : ℚ) / n).prod

theorem shares_nonneg (n : ℕ) (counters : List ℕ) : 0 ≤ shares n counters := by
  refine List.prod_nonneg fun q hq => ?_
  obtain ⟨f, -, rfl⟩ := List.mem_map.mp hq
  positivity

theorem shares_eq (n : ℕ) (counters : List ℕ) :
    shares n counters = (counters.prod : ℚ) / (n : ℚ) ^ counters.length := by
  induction counters with
  | nil => simp [shares]
  | cons f counters ih =>
    have hcons : shares n (f :: counters) = (f : ℚ) / n * shares n counters := by simp [shares]
    rw [hcons, ih, List.prod_cons, Nat.cast_mul, List.length_cons, pow_succ', mul_div_mul_comm]

theorem foldl_mul_computeReputationForFeature (htotal : manager.totalTrans ≠ 0)
    (fs : List AtlasDeviceFeature) (a : ℚ) :
    fs.foldl (fun repVal f => repVal * manager.computeReputationForFeature f) a =
      a * shares manager.totalSuccessTrans (fs.map (·.successTrans)) := by
  have hshare : ∀ f : AtlasDeviceFeature, manager.computeReputationForFeature f =
      (f.successTrans : ℚ) / manager.totalSuccessTrans := by
    intro f
    rw [computeReputationForFeature]
    split
    case isTrue h => rcases h with h | h | h <;> simp_all
    case isFalse => rfl
  induction fs generalizing a with
  | nil => simp [shares]
  | cons f fs ih => rw [List.foldl_cons, ih, hshare, mul_assoc]; simp [shares]

theorem deviceReputation_computeReputation (htotal : manager.totalTrans ≠ 0) :
    manager.computeReputation.deviceReputation =
      (manager.totalSuccessTrans : ℚ) / manager.totalTrans *
        shares manager.totalSuccessTrans (manager.features.map (·.successTrans)) := by
  rw [computeReputation, if_neg htotal]
  exact foldl_mul_computeReputationForFeature htotal manager.features _

/-! ## Credits -/

/-- The counters after a success. -/
def creditedCounters (manager : AtlasDeviceFeatureManager) (feedbackMatrix : FeedbackMatrix) :
    List ℕ :=
  manager.features.map fun f => f.successTrans + manager.credits feedbackMatrix f.featureType

/-- With one feature of each type, a credit goes to the feature of its type. -/
theorem updateSuccessfulTransactions_eq_map {fs : List AtlasDeviceFeature}
    (h : (fs.map (·.featureType)).Nodup) (type : AtlasDeviceFeatureType) :
    updateSuccessfulTransactions type fs = fs.map fun f =>
      { f with successTrans := f.successTrans + if f.featureType = type then 1 else 0 } := by
  induction fs with
  | nil => rfl
  | cons f fs ih =>
    rw [List.map_cons, List.nodup_cons] at h
    rw [updateSuccessfulTransactions, modifyFeature, List.map_cons]
    split
    case isTrue htype =>
      have hrest : fs.map (fun f' : AtlasDeviceFeature =>
          { f' with successTrans := f'.successTrans + if f'.featureType = type then 1 else 0 }) =
            fs := by
        refine (List.map_congr_left fun f' hf' => ?_).trans (List.map_id fs)
        have hne : f'.featureType ≠ type := by
          rintro rfl
          exact h.1 (htype ▸ List.mem_map_of_mem hf')
        simp [hne]
      rw [hrest]
    case isFalse htype =>
      have htail := ih h.2
      rw [updateSuccessfulTransactions] at htail
      rw [htail]
      simp

/-- The second loop adds the credits to the counters. -/
theorem foldl_credit_eq (h : (manager.features.map (·.featureType)).Nodup)
    (feedbackMatrix : FeedbackMatrix) :
    feedbackMatrix.foldl credit manager = { manager with
      features := manager.features.map fun f =>
        { f with successTrans := f.successTrans + manager.credits feedbackMatrix f.featureType }
          } := by
  induction feedbackMatrix generalizing manager with
  | nil => simp [credits]
  | cons entry rest ih =>
    by_cases hreach : manager.Reaches entry
    · have hone := credited_updateSuccessfulTransactions entry.1 manager.features
      have hnodup : ((updateSuccessfulTransactions entry.1 manager.features).map
          (·.featureType)).Nodup := by
        rw [updateSuccessfulTransactions_eq_map h]
        simpa [Function.comp_def] using h
      rw [List.foldl_cons, credit, if_pos hreach, ih hnodup, credits_of_credited hone]
      simp only [updateSuccessfulTransactions_eq_map h, List.map_map, mk.injEq, and_true]
      refine List.map_congr_left fun f _ => ?_
      by_cases htype : f.featureType = entry.1
      · simp [credits, hreach, htype, Nat.add_assoc, Nat.add_comm 1]
      · simp [credits, htype, Ne.symm htype]
    · rw [List.foldl_cons, credit, if_neg hreach, ih h]
      simp [credits, hreach]

theorem computeReputationWith_eq (manager : AtlasDeviceFeatureManager)
    (feedbackMatrix : FeedbackMatrix) :
    manager.computeReputationWith feedbackMatrix =
      if manager.satisfactionScore feedbackMatrix ≥ manager.feedbackThreshold then
        (feedbackMatrix.foldl credit { manager with
          totalTrans := manager.totalTrans + 1
          totalSuccessTrans := manager.totalSuccessTrans + 1 }).computeReputation
      else computeReputation { manager with totalTrans := manager.totalTrans + 1 } := by
  have hscore : feedbackMatrix.foldl
      (fun score entry => score + entry.2 * manager.weight entry.1) 0 =
        manager.satisfactionScore feedbackMatrix := by
    rw [foldl_score, zero_add, satisfactionScore]
  rw [← hscore]
  rfl

/-- The reputation after a feedback matrix. -/
theorem deviceReputation_computeReputationWith (h : (manager.features.map (·.featureType)).Nodup)
    (feedbackMatrix : FeedbackMatrix) :
    (manager.computeReputationWith feedbackMatrix).deviceReputation =
      if manager.satisfactionScore feedbackMatrix ≥ manager.feedbackThreshold then
        ((manager.totalSuccessTrans + 1 : ℕ) : ℚ) / (manager.totalTrans + 1 : ℕ) *
          shares (manager.totalSuccessTrans + 1) (manager.creditedCounters feedbackMatrix)
      else
        (manager.totalSuccessTrans : ℚ) / (manager.totalTrans + 1 : ℕ) *
          shares manager.totalSuccessTrans (manager.features.map (·.successTrans)) := by
  rw [computeReputationWith_eq]
  split
  case isTrue =>
    rw [foldl_credit_eq (by exact h), deviceReputation_computeReputation (Nat.succ_ne_zero _)]
    simp only [List.map_map, creditedCounters]
    rfl
  case isFalse => exact deviceReputation_computeReputation (Nat.succ_ne_zero _)

/-! ## One better score -/

section

variable (hweights : ∀ f ∈ manager.features, 0 ≤ f.weight)

include hweights

theorem weight_nonneg (type : AtlasDeviceFeatureType) : 0 ≤ manager.weight type := by
  rw [weight]
  cases hfind : manager.features.find? (·.featureType = type) with
  | none => rfl
  | some f => exact hweights f (List.mem_of_find?_eq_some hfind)

variable {before after : FeedbackMatrix} {type : AtlasDeviceFeatureType} {v v' : ℚ}

theorem satisfactionScore_le (hv : v ≤ v') :
    manager.satisfactionScore (before ++ (type, v) :: after) ≤
      manager.satisfactionScore (before ++ (type, v') :: after) := by
  have hw := weight_nonneg hweights type
  simp only [satisfactionScore, List.map_append, List.map_cons, List.sum_append, List.sum_cons]
  gcongr

/-- A better score takes no credit away. -/
theorem credits_le (hv : v ≤ v') (t : AtlasDeviceFeatureType) :
    manager.credits (before ++ (type, v) :: after) t ≤
      manager.credits (before ++ (type, v') :: after) t := by
  have hreach : manager.Reaches (type, v) → manager.Reaches (type, v') := fun h =>
    h.trans (mul_le_mul_of_nonneg_right hv (weight_nonneg hweights type))
  simp only [credits, List.countP_append, List.countP_cons]
  gcongr
  split
  case isTrue h =>
    obtain ⟨ht, hr⟩ := of_decide_eq_true h
    rw [if_pos (decide_eq_true ⟨ht, hreach hr⟩)]
  case isFalse => exact Nat.zero_le _

theorem shares_creditedCounters_le (hv : v ≤ v') (n : ℕ) :
    shares n (manager.creditedCounters (before ++ (type, v) :: after)) ≤
      shares n (manager.creditedCounters (before ++ (type, v') :: after)) := by
  simp only [shares, creditedCounters, List.map_map]
  refine List.prod_map_le_prod_map₀ _ _ (fun f _ => ?_) fun f _ => ?_
  · simp only [Function.comp_apply]
    positivity
  · have hcredits : manager.credits (before ++ (type, v) :: after) f.featureType ≤
        manager.credits (before ++ (type, v') :: after) f.featureType :=
      credits_le hweights hv f.featureType
    simp only [Function.comp_apply]
    gcongr

end

/-- The step over the threshold, in whole numbers. -/
theorem shares_le_iff (n total : ℕ) {counters credited : List ℕ}
    (hlength : credited.length = counters.length) :
    (n : ℚ) / (total + 1 : ℕ) * shares n counters ≤
        ((n + 1 : ℕ) : ℚ) / (total + 1 : ℕ) * shares (n + 1) credited ↔
      n * (n + 1) ^ counters.length * counters.prod ≤
        (n + 1) * n ^ counters.length * credited.prod := by
  rcases Nat.eq_zero_or_pos n with rfl | hn
  · refine iff_of_true ?_ (by simp)
    have hnonneg := shares_nonneg 1 credited
    simp only [Nat.cast_zero, zero_div, zero_mul]
    positivity
  · have hpos : (0 : ℚ) < total + 1 := by positivity
    rw [shares_eq, shares_eq, hlength, div_mul_div_comm, div_mul_div_comm,
      div_le_div_iff₀ (by positivity) (by positivity), Nat.cast_add, Nat.cast_add, Nat.cast_one]
    have hleft : (n : ℚ) * counters.prod * ((total + 1) * (n + 1) ^ counters.length) =
        (total + 1) * (n * (n + 1) ^ counters.length * counters.prod) := by ring
    have hright : ((n : ℚ) + 1) * credited.prod * ((total + 1) * n ^ counters.length) =
        (total + 1) * ((n + 1) * n ^ counters.length * credited.prod) := by ring
    rw [hleft, hright, mul_le_mul_iff_of_pos_left hpos]
    exact_mod_cast Iff.rfl

/-- A better score of a feature does not lower the reputation, unless it takes the transaction over
the threshold. Then the reputation does not fall exactly if the credits make up for the larger
number of successful transactions. The scores are for features of the manager (for another one the
code reads behind the vector), and its counters are below `2 ^ 31 - 1`, where an `int` is a
number. -/
theorem better_score_reputation (hnodup : (manager.features.map (·.featureType)).Nodup)
    (hweights : ∀ f ∈ manager.features, 0 ≤ f.weight) (before after : FeedbackMatrix)
    (type : AtlasDeviceFeatureType) {v v' : ℚ} (hv : v ≤ v') :
    let worse := before ++ (type, v) :: after
    let better := before ++ (type, v') :: after
    let n := manager.totalSuccessTrans
    let counters := manager.features.map (·.successTrans)
    ((manager.satisfactionScore worse ≥ manager.feedbackThreshold ∨
        manager.satisfactionScore better < manager.feedbackThreshold) →
      (manager.computeReputationWith worse).deviceReputation ≤
        (manager.computeReputationWith better).deviceReputation) ∧
    (manager.satisfactionScore worse < manager.feedbackThreshold →
      manager.satisfactionScore better ≥ manager.feedbackThreshold →
      ((manager.computeReputationWith worse).deviceReputation ≤
          (manager.computeReputationWith better).deviceReputation ↔
        n * (n + 1) ^ counters.length * counters.prod ≤
          (n + 1) * n ^ counters.length * (manager.creditedCounters better).prod)) := by
  intro worse better n counters
  have hscore : manager.satisfactionScore worse ≤ manager.satisfactionScore better :=
    satisfactionScore_le hweights hv
  have hrep := deviceReputation_computeReputationWith hnodup
  constructor
  · rintro (hworse | hbetter)
    · -- both are successes, and the better one has all the credits of the worse one
      have hshares : shares (n + 1) (manager.creditedCounters worse) ≤
          shares (n + 1) (manager.creditedCounters better) :=
        shares_creditedCounters_le hweights hv (n + 1)
      rw [hrep worse, hrep better, if_pos hworse, if_pos (hworse.trans hscore)]
      gcongr
    · rw [hrep worse, hrep better, if_neg (not_le.mpr (hscore.trans_lt hbetter)),
        if_neg (not_le.mpr hbetter)]
  · intro hworse hbetter
    have hlength : (manager.creditedCounters better).length = counters.length := by
      simp [creditedCounters, counters]
    rw [hrep worse, hrep better, if_neg (not_le.mpr hworse), if_pos hbetter]
    exact shares_le_iff n manager.totalTrans hlength

/-- The system network of a device after ten transactions, all of them successful and with good
scores of every feature. -/
def tenSuccesses : AtlasDeviceFeatureManager where
  features := systemWeights.map fun w => ⟨w.1, w.2, 10⟩
  totalSuccessTrans := 10
  totalTrans := 10
  deviceReputation := 1
  feedbackThreshold := 4 / 5

/-- The other two scores of the next transaction. -/
def otherScores : FeedbackMatrix := [(.keepalivePackets, 7 / 10), (.validPackets, 7 / 10)]

theorem better_score_reputation_ten :
    (tenSuccesses.features.map (·.featureType)).Nodup ∧
    (∀ f ∈ tenSuccesses.features, 0 ≤ f.weight) ∧ (9 / 10 : ℚ) ≤ 1 ∧
    let worse := (.registerTime, 9 / 10) :: otherScores
    let better := (.registerTime, 1) :: otherScores
    (tenSuccesses.satisfactionScore worse < 4 / 5 ∧ tenSuccesses.satisfactionScore better ≥ 4 / 5) ∧
    ((tenSuccesses.computeReputationWith worse).deviceReputation ≤
        (tenSuccesses.computeReputationWith better).deviceReputation ↔
      10 * (10 + 1) ^ 3 * (10 * 10 * 10) ≤
        (10 + 1) * 10 ^ 3 * (tenSuccesses.creditedCounters better).prod) := by
  have hnodup : (tenSuccesses.features.map (·.featureType)).Nodup := by decide
  have hweights : ∀ f ∈ tenSuccesses.features, 0 ≤ f.weight := by decide +kernel
  have hv : (9 / 10 : ℚ) ≤ 1 := by norm_num
  have hscores : tenSuccesses.satisfactionScore ((.registerTime, 9 / 10) :: otherScores) < 4 / 5 ∧
      tenSuccesses.satisfactionScore ((.registerTime, 1) :: otherScores) ≥ 4 / 5 := by
        decide +kernel
  exact ⟨hnodup, hweights, hv, hscores,
    (better_score_reputation hnodup hweights [] otherScores .registerTime hv).2 hscores.1 hscores.2⟩

/-- A better score of the registration time makes the eleventh transaction a success, and the
reputation falls. -/
theorem better_score_hurts :
    let worse := (.registerTime, 9 / 10) :: otherScores
    let better := (.registerTime, 1) :: otherScores
    (tenSuccesses.computeReputationWith worse).deviceReputation = 10 / 11 ∧
      (tenSuccesses.computeReputationWith better).deviceReputation = 100 / 121 ∧
      (100 / 121 : ℚ) < 10 / 11 := by
  decide +kernel

end Atlas.Reputation.AtlasDeviceFeatureManager

import Mathlib.Algebra.Order.Field.Rat
import Mathlib.Tactic.Positivity

/-! # Naive Bayes reputation

A reputation network counts transactions: all of them, the successful ones, and for each feature
those that were successful with a good score of the feature. The reputation is the share of
successful transactions times, for each feature, its share among these.

All shares are at most one as long as a feedback list credits no feature more than once
(`IsProbability.computeReputationWith`). Scores and weights are exact rationals where the code has
`double`. The counters are natural numbers where the code has `int`: the two count alike as long as
no counter passes 2³¹ − 1 (`InRange`).

Reference: `reputation_impl/AtlasReputation_NaiveBayes.cpp`, `AtlasDeviceFeatureManager.cpp`,
`AtlasDeviceFeature.h`.
-/

namespace Atlas.Reputation

/-- `AtlasDeviceFeatureType`: the features of the data network, of the system network, and of the
simulation. -/
inductive AtlasDeviceFeatureType where
  | sensor
  | respTime
  | validPackets
  | registerTime
  | keepalivePackets
  | generic
  | co2
  | temperature
  | light
  | humidity
  | airPressure
deriving DecidableEq

/-- `AtlasDeviceFeature`. -/
structure AtlasDeviceFeature where
  featureType : AtlasDeviceFeatureType
  weight : ℚ
  successTrans : ℕ
deriving DecidableEq

/-- `AtlasDeviceFeatureManager`. -/
structure AtlasDeviceFeatureManager where
  features : List AtlasDeviceFeature
  totalSuccessTrans : ℕ
  totalTrans : ℕ
  deviceReputation : ℚ
  feedbackThreshold : ℚ
deriving DecidableEq

/-- A feedback matrix: scores of features. -/
abbrev FeedbackMatrix := List (AtlasDeviceFeatureType × ℚ)

namespace AtlasDeviceFeatureManager

/-- The constructor. -/
def new : AtlasDeviceFeatureManager := ⟨[], 0, 0, 0, 4 / 5⟩

/-- `addFeature` on the vector of features. -/
def addFeature (type : AtlasDeviceFeatureType) (featureWeight : ℚ) :
    List AtlasDeviceFeature → List AtlasDeviceFeature
  | [] => [⟨type, featureWeight, 0⟩]
  | f :: fs =>
    if f.featureType = type then { f with weight := featureWeight } :: fs
    else f :: addFeature type featureWeight fs

/-- The weight of `operator[]`. Behind the last feature there is nothing to read; zero stands for
it. -/
def weight (manager : AtlasDeviceFeatureManager) (type : AtlasDeviceFeatureType) : ℚ :=
  ((manager.features.find? (·.featureType = type)).map (·.weight)).getD 0

/-- The feature `operator[]` finds, changed in place. -/
def modifyFeature (g : AtlasDeviceFeature → AtlasDeviceFeature) (type : AtlasDeviceFeatureType) :
    List AtlasDeviceFeature → List AtlasDeviceFeature
  | [] => []
  | f :: fs => if f.featureType = type then g f :: fs else f :: modifyFeature g type fs

/-- `updateSuccessfulTransactions` of a feature. -/
def updateSuccessfulTransactions :
    AtlasDeviceFeatureType → List AtlasDeviceFeature → List AtlasDeviceFeature :=
  modifyFeature fun f => { f with successTrans := f.successTrans + 1 }

/-- `computeReputationForFeature`. -/
def computeReputationForFeature (manager : AtlasDeviceFeatureManager)
    (feature : AtlasDeviceFeature) : ℚ :=
  if manager.totalTrans = 0 ∨ manager.totalSuccessTrans = 0 ∨ feature.successTrans = 0 then 0
  else feature.successTrans / manager.totalSuccessTrans

/-- `computeReputation` without feedback. -/
def computeReputation (manager : AtlasDeviceFeatureManager) : AtlasDeviceFeatureManager :=
  if manager.totalTrans = 0 then manager
  else
    { manager with
      deviceReputation := manager.features.foldl
        (fun repVal feature => repVal * manager.computeReputationForFeature feature)
        ((manager.totalSuccessTrans : ℚ) / manager.totalTrans) }

@[simp] theorem features_computeReputation (manager : AtlasDeviceFeatureManager) :
    manager.computeReputation.features = manager.features := by
  rw [computeReputation]
  split <;> rfl

@[simp] theorem feedbackThreshold_computeReputation (manager : AtlasDeviceFeatureManager) :
    manager.computeReputation.feedbackThreshold = manager.feedbackThreshold := by
  rw [computeReputation]
  split <;> rfl

/-- The weighted score of a feedback entry reaches the weighted threshold. -/
def Reaches (manager : AtlasDeviceFeatureManager) (entry : AtlasDeviceFeatureType × ℚ) : Prop :=
  entry.2 * manager.weight entry.1 ≥ manager.feedbackThreshold * manager.weight entry.1

instance (manager : AtlasDeviceFeatureManager) (entry : AtlasDeviceFeatureType × ℚ) :
    Decidable (manager.Reaches entry) :=
  inferInstanceAs (Decidable (_ ≥ _))

/-- The body of the second loop of `computeReputation`. -/
def credit (manager : AtlasDeviceFeatureManager) (entry : AtlasDeviceFeatureType × ℚ) :
    AtlasDeviceFeatureManager :=
  if manager.Reaches entry then
    { manager with features := updateSuccessfulTransactions entry.1 manager.features }
  else manager

/-- `computeReputation` with a feedback matrix. -/
def computeReputationWith (manager : AtlasDeviceFeatureManager) (feedbackMatrix : FeedbackMatrix) :
    AtlasDeviceFeatureManager :=
  let manager := { manager with totalTrans := manager.totalTrans + 1 }
  -- feedback per device
  let satisfactionScore : ℚ := feedbackMatrix.foldl
    (fun score entry => score + entry.2 * manager.weight entry.1) 0
  if satisfactionScore ≥ manager.feedbackThreshold then
    (feedbackMatrix.foldl credit
      { manager with totalSuccessTrans := manager.totalSuccessTrans + 1 }).computeReputation
  else manager.computeReputation

@[simp] theorem totalTrans_computeReputation (manager : AtlasDeviceFeatureManager) :
    manager.computeReputation.totalTrans = manager.totalTrans := by
  rw [computeReputation]
  split <;> rfl

/-! ## Features keep their type and weight -/

/-- Two feature vectors differ in their counters only, and the second counts `n` more at most for
each type. -/
def Credited (n : AtlasDeviceFeatureType → ℕ) (fs fs' : List AtlasDeviceFeature) : Prop :=
  List.Forall₂ (fun f f' => f'.featureType = f.featureType ∧ f'.weight = f.weight ∧
    f'.successTrans ≤ f.successTrans + n f.featureType) fs fs'

theorem Credited.refl (fs : List AtlasDeviceFeature) : Credited (fun _ => 0) fs fs :=
  List.forall₂_same.mpr fun _ _ => ⟨rfl, rfl, Nat.le_refl _⟩

theorem Credited.trans {n n' : AtlasDeviceFeatureType → ℕ} {fs fs' fs'' : List AtlasDeviceFeature}
    (h : Credited n fs fs') (h' : Credited n' fs' fs'') : Credited (n + n') fs fs'' := by
  induction h generalizing fs'' with
  | nil =>
    cases h'
    exact .nil
  | cons hf _ ih =>
    cases h' with
    | cons hf' h' =>
      refine .cons ⟨hf'.1.trans hf.1, hf'.2.1.trans hf.2.1, ?_⟩ (ih h')
      have := hf'.2.2
      have := hf.2.2
      rw [hf.1] at *
      simp only [Pi.add_apply]
      omega

theorem Credited.mono {n n' : AtlasDeviceFeatureType → ℕ} {fs fs' : List AtlasDeviceFeature}
    (h : Credited n fs fs') (hn : ∀ type, n type ≤ n' type) : Credited n' fs fs' :=
  h.imp fun _ _ hf => ⟨hf.1, hf.2.1, hf.2.2.trans (Nat.add_le_add_left (hn _) _)⟩

theorem credited_updateSuccessfulTransactions (type : AtlasDeviceFeatureType)
    (fs : List AtlasDeviceFeature) :
    Credited (fun t => if t = type then 1 else 0) fs (updateSuccessfulTransactions type fs) := by
  induction fs with
  | nil => exact .nil
  | cons f fs ih =>
    have hrest : Credited (fun t => if t = type then 1 else 0) fs fs :=
      (Credited.refl fs).mono fun _ => Nat.zero_le _
    rw [updateSuccessfulTransactions, modifyFeature]
    split
    case isTrue h => exact .cons ⟨rfl, rfl, by simp [h]⟩ hrest
    case isFalse h => exact .cons ⟨rfl, rfl, by simp⟩ ih

theorem Credited.exists_of_mem {n : AtlasDeviceFeatureType → ℕ} {fs fs' : List AtlasDeviceFeature}
    (h : Credited n fs fs') {f' : AtlasDeviceFeature} (hf' : f' ∈ fs') :
    ∃ f ∈ fs, f'.successTrans ≤ f.successTrans + n f.featureType := by
  induction h with
  | nil => cases hf'
  | cons hf _ ih =>
    rcases List.mem_cons.mp hf' with rfl | hmem
    · exact ⟨_, List.mem_cons_self, hf.2.2⟩
    · obtain ⟨f, hmem, hle⟩ := ih hmem
      exact ⟨f, List.mem_cons_of_mem _ hmem, hle⟩

theorem Credited.map_eq {n : AtlasDeviceFeatureType → ℕ} {fs fs' : List AtlasDeviceFeature}
    (h : Credited n fs fs') :
    fs'.map (fun f => (f.featureType, f.weight)) = fs.map fun f => (f.featureType, f.weight) := by
  induction h with
  | nil => rfl
  | cons hf _ ih => rw [List.map_cons, List.map_cons, ih, hf.1, hf.2.1]

theorem find?_of_credited {n : AtlasDeviceFeatureType → ℕ} {fs fs' : List AtlasDeviceFeature}
    (h : Credited n fs fs') (type : AtlasDeviceFeatureType) :
    (fs'.find? (·.featureType = type)).map (·.weight) =
      (fs.find? (·.featureType = type)).map (·.weight) := by
  induction h with
  | nil => rfl
  | cons hf _ ih =>
    rename_i f f' fs fs' _
    by_cases htype : f.featureType = type
    · simp [htype, hf.1, hf.2.1]
    · simpa [htype, hf.1] using ih

variable {manager : AtlasDeviceFeatureManager}

/-- How often a feedback matrix credits a feature. -/
def credits (manager : AtlasDeviceFeatureManager) (feedbackMatrix : FeedbackMatrix)
    (type : AtlasDeviceFeatureType) : ℕ :=
  feedbackMatrix.countP fun entry => entry.1 = type ∧ manager.Reaches entry

/-- Counters do not matter for credits. -/
theorem credits_of_credited {n : AtlasDeviceFeatureType → ℕ} {fs : List AtlasDeviceFeature}
    (h : Credited n manager.features fs) (feedbackMatrix : FeedbackMatrix) :
    credits { manager with features := fs } feedbackMatrix = manager.credits feedbackMatrix := by
  funext type
  refine List.countP_congr fun entry _ => ?_
  rw [decide_eq_true_iff, decide_eq_true_iff]
  simp only [Reaches, weight, find?_of_credited h]

/-- The second loop changes the counters of the features only, by one for each credit at most. -/
theorem credited_foldl_credit (manager : AtlasDeviceFeatureManager)
    (feedbackMatrix : FeedbackMatrix) :
    ∃ fs, feedbackMatrix.foldl credit manager = { manager with features := fs } ∧
      Credited (manager.credits feedbackMatrix) manager.features fs := by
  induction feedbackMatrix generalizing manager with
  | nil => exact ⟨manager.features, rfl, Credited.refl _⟩
  | cons entry rest ih =>
    by_cases hreach : manager.Reaches entry
    · -- the rest of the loop sees the same weights
      have hone := credited_updateSuccessfulTransactions entry.1 manager.features
      obtain ⟨fs, hfold, hcredited⟩ := ih
        { manager with features := updateSuccessfulTransactions entry.1 manager.features }
      rw [credits_of_credited hone] at hcredited
      refine ⟨fs, ?_, (hone.trans hcredited).mono fun type => ?_⟩
      · rw [List.foldl_cons, credit, if_pos hreach, hfold]
      · by_cases htype : entry.1 = type
        · simp [credits, hreach, htype, Nat.add_comm]
        · simp [credits, htype, Ne.symm htype]
    · obtain ⟨fs, hfold, hcredited⟩ := ih manager
      refine ⟨fs, ?_, hcredited.mono fun type => ?_⟩
      · rw [List.foldl_cons, credit, if_neg hreach, hfold]
      · simp [credits, hreach]

/-- A feedback matrix counts one more transaction. If it is a success, the features get their
credits. -/
theorem computeReputationWith_cases (manager : AtlasDeviceFeatureManager)
    (feedbackMatrix : FeedbackMatrix) :
    (∃ fs, Credited (manager.credits feedbackMatrix) manager.features fs ∧
      manager.computeReputationWith feedbackMatrix = computeReputation { manager with
        features := fs
        totalTrans := manager.totalTrans + 1
        totalSuccessTrans := manager.totalSuccessTrans + 1 }) ∨
    manager.computeReputationWith feedbackMatrix =
      computeReputation { manager with totalTrans := manager.totalTrans + 1 } := by
  rw [computeReputationWith]
  dsimp only
  split
  case isTrue =>
    obtain ⟨fs, hfold, hcredited⟩ := credited_foldl_credit { manager with
      totalTrans := manager.totalTrans + 1, totalSuccessTrans := manager.totalSuccessTrans + 1 }
      feedbackMatrix
    exact .inl ⟨fs, hcredited, by rw [hfold]⟩
  case isFalse => exact .inr rfl

theorem totalTrans_computeReputationWith (manager : AtlasDeviceFeatureManager)
    (feedbackMatrix : FeedbackMatrix) :
    (manager.computeReputationWith feedbackMatrix).totalTrans = manager.totalTrans + 1 := by
  obtain ⟨fs, -, hcompute⟩ | hcompute := computeReputationWith_cases manager feedbackMatrix
  · rw [hcompute, totalTrans_computeReputation]
  · rw [hcompute, totalTrans_computeReputation]

/-- A list that names each feature once credits none twice. -/
theorem credits_le_one_of_nodup {feedbackMatrix : FeedbackMatrix}
    (h : (feedbackMatrix.map Prod.fst).Nodup) (type : AtlasDeviceFeatureType) :
    manager.credits feedbackMatrix type ≤ 1 := by
  calc manager.credits feedbackMatrix type
      ≤ feedbackMatrix.countP (fun entry => entry.1 = type) :=
        List.countP_mono_left fun _ _ hentry => by simp_all
    _ = (feedbackMatrix.map Prod.fst).count type := by
        rw [List.count, List.countP_map]
        exact List.countP_congr fun _ _ => by simp
    _ ≤ 1 := List.nodup_iff_count_le_one.mp h type

/-! ## Shares are probabilities -/

/-- The counters are ordered, and the reputation lies between zero and one. -/
structure IsProbability (manager : AtlasDeviceFeatureManager) : Prop where
  success_le : manager.totalSuccessTrans ≤ manager.totalTrans
  feature_le : ∀ f ∈ manager.features, f.successTrans ≤ manager.totalSuccessTrans
  reputation_nonneg : 0 ≤ manager.deviceReputation
  reputation_le_one : manager.deviceReputation ≤ 1

/-- Every counter is in the range of an `int`. -/
structure InRange (manager : AtlasDeviceFeatureManager) : Prop where
  total_le : manager.totalTrans ≤ 2147483647
  success_le : manager.totalSuccessTrans ≤ 2147483647
  feature_le : ∀ f ∈ manager.features, f.successTrans ≤ 2147483647

/-- Where the counters are ordered, the largest decides about their range. -/
theorem IsProbability.inRange (h : IsProbability manager)
    (htotal : manager.totalTrans ≤ 2147483647) : InRange manager where
  total_le := htotal
  success_le := h.success_le.trans htotal
  feature_le f hf := (h.feature_le f hf).trans (h.success_le.trans htotal)

/-- A share of a whole is at least zero and at most one. -/
theorem natCast_div_le_one {a b : ℕ} (h : a ≤ b) : (0 : ℚ) ≤ a / b ∧ (a : ℚ) / b ≤ 1 := by
  refine ⟨by positivity, div_le_one_of_le₀ ?_ (by positivity)⟩
  exact_mod_cast h

theorem computeReputationForFeature_mem {feature : AtlasDeviceFeature}
    (h : feature.successTrans ≤ manager.totalSuccessTrans) :
    0 ≤ manager.computeReputationForFeature feature ∧
      manager.computeReputationForFeature feature ≤ 1 := by
  rw [computeReputationForFeature]
  split
  case isTrue => exact ⟨le_refl 0, zero_le_one⟩
  case isFalse => exact natCast_div_le_one h

/-- A product of shares is a share. -/
theorem foldl_mul_mem {fs : List AtlasDeviceFeature} {repVal : ℚ} (h₀ : 0 ≤ repVal)
    (h₁ : repVal ≤ 1) (hfs : ∀ f ∈ fs, f.successTrans ≤ manager.totalSuccessTrans) :
    0 ≤ fs.foldl (fun r f => r * manager.computeReputationForFeature f) repVal ∧
      fs.foldl (fun r f => r * manager.computeReputationForFeature f) repVal ≤ 1 := by
  induction fs generalizing repVal with
  | nil => exact ⟨h₀, h₁⟩
  | cons f fs ih =>
    obtain ⟨hf₀, hf₁⟩ := computeReputationForFeature_mem (hfs f List.mem_cons_self)
    exact ih (mul_nonneg h₀ hf₀) (mul_le_one₀ h₁ hf₀ hf₁)
      fun f' hf' => hfs f' (List.mem_cons_of_mem _ hf')

/-- Ordered counters give a reputation between zero and one. -/
theorem isProbability_computeReputation (hsuccess : manager.totalSuccessTrans ≤ manager.totalTrans)
    (hfeature : ∀ f ∈ manager.features, f.successTrans ≤ manager.totalSuccessTrans)
    (htotal : manager.totalTrans ≠ 0) : IsProbability manager.computeReputation := by
  obtain ⟨hshare₀, hshare₁⟩ := natCast_div_le_one hsuccess
  obtain ⟨hrep₀, hrep₁⟩ := foldl_mul_mem hshare₀ hshare₁ hfeature
  rw [computeReputation, if_neg htotal]
  exact ⟨hsuccess, hfeature, hrep₀, hrep₁⟩

/-- A feedback matrix that credits no feature more than once keeps everything in order. -/
theorem IsProbability.computeReputationWith (h : IsProbability manager)
    {feedbackMatrix : FeedbackMatrix} (honce : ∀ type, manager.credits feedbackMatrix type ≤ 1) :
    IsProbability (manager.computeReputationWith feedbackMatrix) := by
  obtain ⟨fs, hcredited, hcompute⟩ | hcompute := computeReputationWith_cases manager feedbackMatrix
  · rw [hcompute]
    refine isProbability_computeReputation (Nat.succ_le_succ h.success_le) ?_ (Nat.succ_ne_zero _)
    -- a feature gains one at most, and the network gains one
    intro f' hf'
    obtain ⟨f, hf, hle⟩ := Credited.exists_of_mem hcredited hf'
    exact hle.trans (Nat.add_le_add (h.feature_le f hf) (honce f.featureType))
  · rw [hcompute]
    exact isProbability_computeReputation (Nat.le_succ_of_le h.success_le) h.feature_le
      (Nat.succ_ne_zero _)

end AtlasDeviceFeatureManager

end Atlas.Reputation

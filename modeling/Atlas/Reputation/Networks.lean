import Atlas.Gateway.Json
import Atlas.Reputation.NaiveBayes

/-! # The reputation networks of the devices

The device manager gives every device that comes into memory two networks: the system network, which
a periodic alarm feeds with the behaviour of the device towards the gateway, and the data network,
which other devices feed with scores. A network starts with the features the gateway defines, or
with the counters stored in the database.

Counters in order stay in order under the alarm, which names each feature once, and under a data
update that credits none twice (`InOrder.computeReputationWith`).

Reference: `device/AtlasDeviceManager.cpp`, `device/AtlasDevice.h`, `sql/AtlasSQLite.cpp`.
-/

namespace Atlas.Reputation

open Gateway

namespace AtlasDeviceFeatureManager

/-! ## Loading a network -/

/-- What `selectBayesParams` reads: the row of the network, if there is one, the rows of the
features it steps through, and whether every statement succeeded. -/
structure BayesParams where
  network : Option (ℕ × ℕ)
  features : List AtlasDeviceFeature
  success : Bool

/-- `setSuccessfulTransactions` of a feature. -/
def setSuccessfulTransactions (successTrans : ℕ) :
    AtlasDeviceFeatureType → List AtlasDeviceFeature → List AtlasDeviceFeature :=
  modifyFeature fun f => { f with successTrans := successTrans }

/-- The body of the loop of `selectFeatures`. -/
def selectFeature (features : List AtlasDeviceFeature) (row : AtlasDeviceFeature) :
    List AtlasDeviceFeature :=
  setSuccessfulTransactions row.successTrans row.featureType
    (addFeature row.featureType row.weight features)

/-- `selectBayesParams`. -/
def selectBayesParams (manager : AtlasDeviceFeatureManager) (params : BayesParams) :
    AtlasDeviceFeatureManager :=
  let manager := match params.network with
    | some (totalTrans, totalSuccessTrans) =>
      { manager with totalTrans := totalTrans, totalSuccessTrans := totalSuccessTrans }
    | none => manager
  { manager with features := params.features.foldl selectFeature manager.features }

/-- The common part of `initSystemReputation` and `initDataReputation`. The parameters are absent
when `checkDeviceForFeatures` finds no row. -/
def initReputation (threshold : ℚ) (weights : List (AtlasDeviceFeatureType × ℚ))
    (stored : Option BayesParams) : AtlasDeviceFeatureManager :=
  let manager := { new with feedbackThreshold := threshold }
  match stored with
  | some params =>
    -- a failed select leaves what it has read so far
    if params.success then (manager.selectBayesParams params).computeReputation
    else manager.selectBayesParams params
  | none =>
    { manager with
      features := weights.foldl (fun fs w => addFeature w.1 w.2 fs) manager.features }

/-- The features of the system network, in the order in which they are added. -/
def systemWeights : List (AtlasDeviceFeatureType × ℚ) :=
  [(.registerTime, 2 / 5), (.keepalivePackets, 3 / 10), (.validPackets, 3 / 10)]

/-- The features of the data network, in the order in which they are added. -/
def dataWeights : List (AtlasDeviceFeatureType × ℚ) := [(.sensor, 7 / 10), (.respTime, 3 / 10)]

/-- `initSystemReputation`. -/
def initSystemReputation : Option BayesParams → AtlasDeviceFeatureManager :=
  initReputation (4 / 5) systemWeights

/-- `initDataReputation`. -/
def initDataReputation : Option BayesParams → AtlasDeviceFeatureManager :=
  initReputation (4 / 5) dataWeights

/-! ## Networks in order -/

/-- A network with the given features and weights, the threshold of the gateway, and counters in
order. -/
structure InOrder (weights : List (AtlasDeviceFeatureType × ℚ))
    (manager : AtlasDeviceFeatureManager) : Prop extends IsProbability manager where
  features_eq : manager.features.map (fun f => (f.featureType, f.weight)) = weights
  threshold_eq : manager.feedbackThreshold = 4 / 5

section

variable {weights : List (AtlasDeviceFeatureType × ℚ)} {manager : AtlasDeviceFeatureManager}

theorem addFeature_of_forall_ne {type : AtlasDeviceFeatureType} {fs : List AtlasDeviceFeature}
    (h : ∀ f ∈ fs, f.featureType ≠ type) (w : ℚ) :
    addFeature type w fs = fs ++ [⟨type, w, 0⟩] := by
  induction fs with
  | nil => rfl
  | cons f fs ih =>
    rw [List.forall_mem_cons] at h
    rw [addFeature, if_neg h.1, ih h.2, List.cons_append]

theorem modifyFeature_append {type : AtlasDeviceFeatureType} {fs : List AtlasDeviceFeature}
    (h : ∀ f ∈ fs, f.featureType ≠ type) (g : AtlasDeviceFeature → AtlasDeviceFeature)
    (fs' : List AtlasDeviceFeature) :
    modifyFeature g type (fs ++ fs') = fs ++ modifyFeature g type fs' := by
  induction fs with
  | nil => rfl
  | cons f fs ih =>
    rw [List.forall_mem_cons] at h
    rw [List.cons_append, modifyFeature, if_neg h.1, ih h.2, List.cons_append]

/-- A row of a new type becomes the last feature. -/
theorem selectFeature_of_forall_ne {fs : List AtlasDeviceFeature} {row : AtlasDeviceFeature}
    (h : ∀ f ∈ fs, f.featureType ≠ row.featureType) : selectFeature fs row = fs ++ [row] := by
  rw [selectFeature, setSuccessfulTransactions, addFeature_of_forall_ne h, modifyFeature_append h]
  simp [modifyFeature]

/-- Rows of distinct types are the features after loading. -/
theorem foldl_selectFeature (fs : List AtlasDeviceFeature) {rows : List AtlasDeviceFeature}
    (h : ((fs ++ rows).map (·.featureType)).Nodup) : rows.foldl selectFeature fs = fs ++ rows := by
  induction rows generalizing fs with
  | nil => simp
  | cons row rows ih =>
    have hne : ∀ f ∈ fs, f.featureType ≠ row.featureType := by
      intro f hf heq
      rw [List.map_append, List.nodup_append] at h
      exact h.2.2 _ (List.mem_map_of_mem hf) _ (by simp) heq
    rw [List.foldl_cons, selectFeature_of_forall_ne hne, ih _ (by simpa using h)]
    simp

/-- Features of distinct types are added in order, with counters at zero. -/
theorem foldl_addFeature (fs : List AtlasDeviceFeature)
    (h : (fs.map (·.featureType) ++ weights.map Prod.fst).Nodup) :
    weights.foldl (fun fs w => addFeature w.1 w.2 fs) fs =
      fs ++ weights.map fun w => ⟨w.1, w.2, 0⟩ := by
  induction weights generalizing fs with
  | nil => simp
  | cons w weights ih =>
    have hne : ∀ f ∈ fs, f.featureType ≠ w.1 := by
      intro f hf heq
      rw [List.nodup_append] at h
      exact h.2.2 _ (List.mem_map_of_mem hf) _ (by simp) heq
    rw [List.foldl_cons, addFeature_of_forall_ne hne, ih _ (by simpa using h)]
    simp

/-- Rows of distinct types, loaded into a new manager. -/
theorem selectBayesParams_of_nodup {params : BayesParams} {threshold : ℚ}
    (h : (params.features.map (·.featureType)).Nodup) :
    selectBayesParams { new with feedbackThreshold := threshold } params =
      ⟨params.features, (params.network.getD (0, 0)).2, (params.network.getD (0, 0)).1, 0,
        threshold⟩ := by
  have hfeatures : params.features.foldl selectFeature [] = params.features :=
    foldl_selectFeature [] h
  cases hnetwork : params.network <;> simp [selectBayesParams, new, hnetwork, hfeatures]

/-- A network that has no row yet starts in order. -/
theorem inOrder_initReputation_none (hnodup : (weights.map Prod.fst).Nodup) :
    InOrder weights (initReputation (4 / 5) weights none) := by
  have hfeatures : weights.foldl (fun fs w => addFeature w.1 w.2 fs) [] =
      weights.map fun w => ⟨w.1, w.2, 0⟩ := foldl_addFeature [] hnodup
  rw [initReputation]
  simp only [new, hfeatures]
  refine ⟨⟨Nat.le_refl 0, ?_, le_refl 0, zero_le_one⟩, ?_, rfl⟩
  · intro f hf
    obtain ⟨w, -, rfl⟩ := List.mem_map.mp hf
    exact Nat.le_refl 0
  · rw [List.map_map]
    exact List.map_id _

/-- A feedback matrix that credits no feature more than once keeps the network in order. -/
theorem InOrder.computeReputationWith (h : InOrder weights manager)
    {feedbackMatrix : FeedbackMatrix} (honce : ∀ type, manager.credits feedbackMatrix type ≤ 1) :
    InOrder weights (manager.computeReputationWith feedbackMatrix) := by
  refine ⟨h.toIsProbability.computeReputationWith honce, ?_, ?_⟩
  · obtain ⟨fs, hcredited, hcompute⟩ | hcompute :=
      computeReputationWith_cases manager feedbackMatrix
    · rw [hcompute, features_computeReputation, hcredited.map_eq, h.features_eq]
    · rw [hcompute, features_computeReputation, h.features_eq]
  · obtain ⟨fs, -, hcompute⟩ | hcompute := computeReputationWith_cases manager feedbackMatrix
    · rw [hcompute, feedbackThreshold_computeReputation, h.threshold_eq]
    · rw [hcompute, feedbackThreshold_computeReputation, h.threshold_eq]

/-- What `operator[]` finds for the features of the network. -/
theorem InOrder.find?_eq (h : InOrder weights manager) (type : AtlasDeviceFeatureType) :
    (manager.features.find? (·.featureType = type)).map (fun f => (f.featureType, f.weight)) =
      weights.find? (·.1 = type) := by
  rw [← h.features_eq, List.find?_map]
  rfl

/-- A positive weight cancels: the score is compared with the threshold. -/
theorem InOrder.reaches_iff (h : InOrder weights manager) {type : AtlasDeviceFeatureType} {w : ℚ}
    (hw : weights.find? (·.1 = type) = some (type, w)) (hpos : 0 < w) (score : ℚ) :
    manager.Reaches (type, score) ↔ 4 / 5 ≤ score := by
  have hweight : manager.weight type = w := by
    obtain ⟨f, hf, hfw⟩ := Option.map_eq_some_iff.mp ((h.find?_eq type).trans hw)
    rw [weight, hf]
    exact congrArg Prod.snd hfw
  rw [Reaches, hweight, h.threshold_eq, ge_iff_le, mul_le_mul_iff_left₀ hpos]

end

end AtlasDeviceFeatureManager

/-! ## Devices -/

open AtlasDeviceFeatureManager

/-- The fields of `AtlasDevice` that matter for its reputation. Both networks are there from its
creation on, so `hasReputation` holds for them. -/
structure AtlasDevice where
  registered : Bool
  system : AtlasDeviceFeatureManager
  data : AtlasDeviceFeatureManager
deriving DecidableEq

/-- What `getDevice` finds in the database. -/
structure Env where
  selectDevicePsk : StdString → StdString
  systemParams : StdString → Option BayesParams
  dataParams : StdString → Option BayesParams

/-- The devices in memory. -/
abbrev Devices := StdString → Option AtlasDevice

/-- The scores of a device in one period, by the elements of its feedback vector. -/
structure SystemFeedback where
  registration : ℚ
  keepalive : ℚ
  packets : ℚ

/-- The feedback matrix of `subAlarmCallback`. The elements are in the order in which
`initSystemReputation` pushes them. -/
def SystemFeedback.matrix (feedback : SystemFeedback) : FeedbackMatrix :=
  [(.registerTime, feedback.registration), (.keepalivePackets, feedback.keepalive),
    (.validPackets, feedback.packets)]

/-- `subAlarmCallback`. -/
def AtlasDevice.subAlarmCallback (device : AtlasDevice) (feedback : SystemFeedback) : AtlasDevice :=
  { device with system := device.system.computeReputationWith feedback.matrix }

/-- The device after scores of its data. -/
def AtlasDevice.updateData (device : AtlasDevice) (feedbackMatrix : FeedbackMatrix) : AtlasDevice :=
  { device with data := device.data.computeReputationWith feedbackMatrix }

namespace Devices

/-- `getDevice`. -/
def getDevice (env : Env) (devices : Devices) (identity : StdString) :
    Devices × Option AtlasDevice :=
  match devices identity with
  | some device => (devices, some device)
  | none =>
    if env.selectDevicePsk identity = [] then (devices, none)
    else
      let device : AtlasDevice :=
        ⟨false, initSystemReputation (env.systemParams identity),
          initDataReputation (env.dataParams identity)⟩
      (Function.update devices identity (some device), some device)

/-- `sysRepAlarmCallback`. -/
def sysRepAlarmCallback (devices : Devices) (feedback : StdString → SystemFeedback) : Devices :=
  fun identity => (devices identity).map (·.subAlarmCallback (feedback identity))

/-- The checks of `updateDataReputation`: the device whose data network gets the matrix. The
temperature network is the only one between the bounds. -/
def scored (devices : Devices) (identity : StdString) (networkType : ℕ)
    (feedbackMatrix : FeedbackMatrix) : Option AtlasDevice :=
  match devices identity with
  | none => none
  | some device =>
    if networkType ≤ 100 ∨ networkType ≥ 102 then none
    else if feedbackMatrix = [] then none
    else some device

/-- `updateDataReputation`. -/
def updateDataReputation (devices : Devices) (identity : StdString) (networkType : ℕ)
    (feedbackMatrix : FeedbackMatrix) : Devices :=
  match devices.scored identity networkType feedbackMatrix with
  | none => devices
  | some device => Function.update devices identity (some (device.updateData feedbackMatrix))

/-- The device that is scored is in memory, and the network is that of the temperature. -/
theorem scored_eq_some {devices : Devices} {identity : StdString} {networkType : ℕ}
    {feedbackMatrix : FeedbackMatrix} {device : AtlasDevice}
    (h : devices.scored identity networkType feedbackMatrix = some device) :
    devices identity = some device ∧ networkType = 101 := by
  rw [scored] at h
  cases hdevice : devices identity with
  | none =>
    rw [hdevice] at h
    cases h
  | some device' =>
    rw [hdevice] at h
    dsimp only at h
    split_ifs at h with hbounds hempty
    cases h
    exact ⟨rfl, by omega⟩

/-- The registration of a device in memory begins or ends. -/
def setRegistered (registered : Bool) (identity : StdString) (devices : Devices) : Devices :=
  match devices identity with
  | none => devices
  | some device => Function.update devices identity (some { device with registered := registered })

/-- `P` holds of every device in memory. -/
def Forall (P : AtlasDevice → Prop) (devices : Devices) : Prop :=
  ∀ identity, ∀ device ∈ devices identity, P device

namespace Forall

variable {P : AtlasDevice → Prop} {devices : Devices}

theorem update (h : devices.Forall P) {device : AtlasDevice} (identity : StdString)
    (hP : P device) : Forall P (Function.update devices identity (some device)) := by
  intro identity' device' hdevice'
  by_cases heq : identity' = identity
  · subst heq
    simp only [Function.update_self, Option.mem_some_iff] at hdevice'
    exact hdevice' ▸ hP
  · rw [Function.update_of_ne heq] at hdevice'
    exact h identity' device' hdevice'

theorem getDevice (h : devices.Forall P) {env : Env} {identity : StdString}
    (hload : devices identity = none → env.selectDevicePsk identity ≠ [] →
      P ⟨false, initSystemReputation (env.systemParams identity),
        initDataReputation (env.dataParams identity)⟩) :
    Forall P (devices.getDevice env identity).1 := by
  rw [Devices.getDevice]
  split
  case h_1 => exact h
  case h_2 hnone =>
    split
    case isTrue => exact h
    case isFalse hpsk => exact h.update identity (hload hnone hpsk)

theorem sysRepAlarmCallback (h : devices.Forall P) (feedback : StdString → SystemFeedback)
    (halarm : ∀ device feedback, P device → P (device.subAlarmCallback feedback)) :
    Forall P (devices.sysRepAlarmCallback feedback) := by
  intro identity device' hdevice'
  obtain ⟨device, hdevice, rfl⟩ := Option.map_eq_some_iff.mp hdevice'
  exact halarm device _ (h identity device hdevice)

theorem updateDataReputation (h : devices.Forall P) (identity : StdString) (networkType : ℕ)
    {feedbackMatrix : FeedbackMatrix}
    (hupdate : ∀ device, P device → P (device.updateData feedbackMatrix)) :
    Forall P (devices.updateDataReputation identity networkType feedbackMatrix) := by
  rw [Devices.updateDataReputation]
  split
  case h_1 => exact h
  case h_2 device hscored =>
    exact h.update identity (hupdate device (h identity device (scored_eq_some hscored).1))

theorem setRegistered (h : devices.Forall P) (registered : Bool) (identity : StdString)
    (hregistered : ∀ device, P device → P { device with registered := registered }) :
    Forall P (devices.setRegistered registered identity) := by
  rw [Devices.setRegistered]
  split
  case h_1 => exact h
  case h_2 device hdevice =>
    exact h.update identity (hregistered device (h identity device hdevice))

end Forall

end Devices

end Atlas.Reputation

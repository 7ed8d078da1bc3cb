import Atlas.Gateway.Approve
import Atlas.Lib.EventMachine
import Atlas.Reputation.BayesDatabase

/-! # Reputation across restarts

A network is inserted into the database when its device comes into memory for the first time, and
after every feedback its totals and counters are written. The database then holds what is in memory
(`Keeps`), and a gateway that is started again loads what the old one had.

Reference: `device/AtlasDeviceManager.cpp` (`initSystemReputation`, `initDataReputation`,
`subAlarmCallback`, `updateDataReputation`).
-/

namespace Atlas.Reputation

open EventMachine Gateway
open AtlasDeviceFeatureManager (initReputation)

/-! ## The networks in memory -/

/-- The threshold and the features the gateway gives to a new network. -/
structure NetworkSetup where
  threshold : ℚ
  weights : List (AtlasDeviceFeatureType × ℚ)
  weights_ne_nil : weights ≠ []

/-- The database and the networks of the devices in memory. -/
structure Networks where
  db : BayesDatabase
  memory : NetworkKey → Option AtlasDeviceFeatureManager

/-- A device comes into memory and with it a network, a network gets feedback, or the gateway is
started again. -/
inductive NetworkEvent where
  | load (key : NetworkKey)
  | feedback (key : NetworkKey) (feedbackMatrix : FeedbackMatrix)
  | restart

namespace Networks

variable (setup : ℕ → NetworkSetup)

/-- The network that `initSystemReputation` and `initDataReputation` set up for a device. -/
def loaded (db : BayesDatabase) (key : NetworkKey) : AtlasDeviceFeatureManager :=
  initReputation (setup key.networkTypeId).threshold (setup key.networkTypeId).weights
    (db.stored key)

/-- The database after the network was set up: a network without rows is inserted. -/
def loadedDb (db : BayesDatabase) (key : NetworkKey) : BayesDatabase :=
  if db.checkDeviceForFeatures key then db else db.insertBayesParams key (loaded setup db key)

/-- One event. -/
def step (s : Networks) : NetworkEvent → Networks × List Empty
  | .load key =>
    if (s.memory key).isSome || (s.db.device.getIdDevice key.identity).isNone then (s, [])
    else
      ({ db := loadedDb setup s.db key
         memory := Function.update s.memory key (some (loaded setup s.db key)) }, [])
  | .feedback key feedbackMatrix =>
    match s.memory key with
    | none => (s, [])
    | some manager =>
      let manager := manager.computeReputationWith feedbackMatrix
      ({ db := s.db.updateBayesParams key manager
         memory := Function.update s.memory key (some manager) }, [])
  | .restart => ({ s with memory := fun _ => none }, [])

end Networks

/-! ## What a restarted gateway loads -/

namespace AtlasDeviceFeatureManager

/-- The reputation is computed from the other fields. -/
theorem computeReputation_reset {manager : AtlasDeviceFeatureManager} (h : manager.totalTrans ≠ 0) :
    computeReputation { manager.computeReputation with deviceReputation := 0 } =
      manager.computeReputation := by
  simp only [computeReputation, if_neg h]
  rfl

theorem map_featureType_addFeature (type : AtlasDeviceFeatureType) (w : ℚ)
    (fs : List AtlasDeviceFeature) :
    (addFeature type w fs).map (·.featureType) =
      if type ∈ fs.map (·.featureType) then fs.map (·.featureType)
      else fs.map (·.featureType) ++ [type] := by
  induction fs with
  | nil => rfl
  | cons f fs ih =>
    rw [addFeature]
    by_cases htype : f.featureType = type
    · simp [htype]
    · rw [if_neg htype, List.map_cons, ih]
      by_cases hmem : type ∈ fs.map (·.featureType)
      · simp [hmem]
      · simp [hmem, Ne.symm htype]

theorem nodup_addFeature {fs : List AtlasDeviceFeature} (h : (fs.map (·.featureType)).Nodup)
    (type : AtlasDeviceFeatureType) (w : ℚ) :
    ((addFeature type w fs).map (·.featureType)).Nodup := by
  rw [map_featureType_addFeature]
  split
  case isTrue => exact h
  case isFalse hmem => exact List.nodup_append_singleton h hmem

/-- However often a type is added, it becomes one feature. -/
theorem nodup_foldl_addFeature (weights : List (AtlasDeviceFeatureType × ℚ))
    {fs : List AtlasDeviceFeature} (h : (fs.map (·.featureType)).Nodup) :
    ((weights.foldl (fun fs w => addFeature w.1 w.2 fs) fs).map (·.featureType)).Nodup := by
  induction weights generalizing fs with
  | nil => exact h
  | cons w weights ih => exact ih (nodup_addFeature h w.1 w.2)

theorem foldl_addFeature_ne_nil {weights : List (AtlasDeviceFeatureType × ℚ)} (h : weights ≠ []) :
    weights.foldl (fun fs w => addFeature w.1 w.2 fs) [] ≠ [] := by
  obtain ⟨weights, w, rfl⟩ := List.eq_nil_or_concat weights |>.resolve_left h
  intro hnil
  rw [List.concat_eq_append, List.foldl_append] at hnil
  have htypes := congrArg (List.map (·.featureType)) hnil
  simp only [List.foldl_cons, List.foldl_nil, map_featureType_addFeature] at htypes
  split at htypes
  case isTrue hmem => simp [htypes] at hmem
  case isFalse => simp at htypes

end AtlasDeviceFeatureManager

namespace Networks

open AtlasDeviceFeatureManager

variable {setup : ℕ → NetworkSetup} {db db' : BayesDatabase} {key key' : NetworkKey}
  {manager : AtlasDeviceFeatureManager}

/-- The database holds a network. -/
structure Keeps (setup : ℕ → NetworkSetup) (db : BayesDatabase) (key : NetworkKey)
    (manager : AtlasDeviceFeatureManager) : Prop where
  totals : ∃ row, db.networkRows key = [row] ∧ row.totalTrans = manager.totalTrans ∧
    row.totalSuccessTrans = manager.totalSuccessTrans
  features : db.getFeature key = manager.features
  nodup : (manager.features.map (·.featureType)).Nodup
  features_ne_nil : manager.features ≠ []
  threshold : manager.feedbackThreshold = (setup key.networkTypeId).threshold
  reputation : computeReputation { manager with deviceReputation := 0 } = manager

namespace Keeps

/-- Statements that do not touch the rows of the network. -/
theorem congr (h : Keeps setup db key manager) (hrows : db'.networkRows key = db.networkRows key)
    (hfeature : db'.getFeature key = db.getFeature key) : Keeps setup db' key manager :=
  { h with
    totals := hrows ▸ h.totals
    features := hfeature ▸ h.features }

theorem checkDeviceForFeatures (h : Keeps setup db key manager) :
    db.checkDeviceForFeatures key = true := by
  simp [BayesDatabase.checkDeviceForFeatures, h.features, h.features_ne_nil]

/-- What is loaded into a fresh manager is the network without its reputation. -/
theorem selectBayesParams (h : Keeps setup db key manager) :
    AtlasDeviceFeatureManager.selectBayesParams
        { new with feedbackThreshold := (setup key.networkTypeId).threshold }
        (db.selectBayesParams key) =
      { manager with deviceReputation := 0 } := by
  obtain ⟨row, hrow, htrans, hsuccess⟩ := h.totals
  have hnodup : ((db.selectBayesParams key).features.map (·.featureType)).Nodup := by
    simpa [BayesDatabase.selectBayesParams, h.features] using h.nodup
  rw [selectBayesParams_of_nodup hnodup]
  simp [BayesDatabase.selectBayesParams, hrow, htrans, hsuccess, h.features, h.threshold]

theorem loaded (h : Keeps setup db key manager) : loaded setup db key = manager := by
  rw [Networks.loaded, BayesDatabase.stored, if_pos h.checkDeviceForFeatures, initReputation]
  have hsuccess : (db.selectBayesParams key).success = true := rfl
  dsimp only
  rw [if_pos hsuccess, h.selectBayesParams, h.reputation]

/-- The device of the network is in its table. -/
theorem getIdDevice (h : Keeps setup db key manager) :
    (db.device.getIdDevice key.identity).isSome := by
  obtain ⟨row, hrow, -⟩ := h.totals
  have hmem : row ∈ db.networkRows key := by simp [hrow]
  have hkey := (List.mem_filter.mp hmem).2
  rw [BayesDatabase.isNetwork, Bool.and_eq_true, DeviceTable.isDevice_iff] at hkey
  simp [hkey.1]

/-- After feedback the database holds the new counters. -/
theorem feedback (h : Keeps setup db key manager) (feedbackMatrix : FeedbackMatrix) :
    Keeps setup (db.updateBayesParams key (manager.computeReputationWith feedbackMatrix)) key
      (manager.computeReputationWith feedbackMatrix) := by
  -- feedback changes neither the features nor their weights
  obtain ⟨updated, hcompute, htotal, hsame, hthreshold⟩ :
      ∃ updated : AtlasDeviceFeatureManager,
        manager.computeReputationWith feedbackMatrix = updated.computeReputation ∧
        updated.totalTrans ≠ 0 ∧
        updated.features.map (fun f => (f.featureType, f.weight)) =
          manager.features.map (fun f => (f.featureType, f.weight)) ∧
        updated.feedbackThreshold = manager.feedbackThreshold := by
    obtain ⟨fs, hcredited, hcompute⟩ | hcompute :=
      computeReputationWith_cases manager feedbackMatrix
    · exact ⟨_, hcompute, Nat.succ_ne_zero _, hcredited.map_eq, rfl⟩
    · exact ⟨_, hcompute, Nat.succ_ne_zero _, rfl, rfl⟩
  rw [hcompute]
  have hfeatures : updated.computeReputation.features.map (fun f => (f.featureType, f.weight)) =
      manager.features.map fun f => (f.featureType, f.weight) := by
    rw [features_computeReputation, hsame]
  have htypes := BayesDatabase.map_featureType_eq hfeatures
  have hnodup : (updated.computeReputation.features.map (·.featureType)).Nodup := htypes ▸ h.nodup
  obtain ⟨row, hrow, -⟩ := h.totals
  have hmem : row ∈ db.networkRows key := by simp [hrow]
  obtain ⟨hrows, hwritten⟩ :=
    BayesDatabase.updateBayesParams_self (h.features ▸ hfeatures.symm) hnodup
  refine ⟨⟨db.setTotals key updated.computeReputation row, ?_, ?_, ?_⟩, hwritten, hnodup, ?_, ?_,
    ?_⟩
  · rw [hrows, hrow, List.map_singleton]
  · rw [BayesDatabase.setTotals, if_pos (List.mem_filter.mp hmem).2]
  · rw [BayesDatabase.setTotals, if_pos (List.mem_filter.mp hmem).2]
  · intro hnil
    rw [hnil] at hfeatures
    exact h.features_ne_nil (List.map_eq_nil_iff.mp hfeatures.symm)
  · rw [feedbackThreshold_computeReputation, hthreshold, h.threshold]
  · exact computeReputation_reset htotal

/-- A new network is held after its insertion. -/
theorem insert {deviceId : ℕ} (hdevice : db.device.getIdDevice key.identity = some deviceId)
    (hnone : db.networkRows key = []) (hmanager : manager =
      initReputation (setup key.networkTypeId).threshold (setup key.networkTypeId).weights none) :
    Keeps setup (db.insertBayesParams key manager) key manager := by
  obtain ⟨hrows, hfeature⟩ := BayesDatabase.insertBayesParams_self hdevice hnone
  refine ⟨⟨db.newRow key manager deviceId, hrows, rfl, rfl⟩, hfeature, ?_, ?_, ?_, ?_⟩
  · rw [hmanager]
    exact nodup_foldl_addFeature _ List.nodup_nil
  · rw [hmanager]
    exact foldl_addFeature_ne_nil (setup key.networkTypeId).weights_ne_nil
  · rw [hmanager]
    rfl
  · rw [hmanager]
    rfl

end Keeps

/-- The system network and the data networks. -/
def gatewaySetup : ℕ → NetworkSetup
  | 0 => ⟨4 / 5, systemWeights, List.cons_ne_nil _ _⟩
  | _ => ⟨4 / 5, dataWeights, List.cons_ne_nil _ _⟩

/-! ## Runs -/

/-- Every network has no row and is not in memory, or the database holds what is in memory, and it
satisfies `P`. -/
def Saved (setup : ℕ → NetworkSetup) (P : NetworkKey → AtlasDeviceFeatureManager → Prop)
    (s : Networks) : Prop :=
  ∀ key, (s.db.networkRows key = [] ∧ s.memory key = none) ∨
    ∃ manager, Keeps setup s.db key manager ∧ P key manager ∧
      ∀ manager' ∈ s.memory key, manager' = manager

/-- A gateway that has not seen any device yet. -/
def init (device : DeviceTable) : Networks where
  db := ⟨device, [], [], 1, List.nodup_nil, List.forall_mem_nil _, List.forall_mem_nil _⟩
  memory _ := none

variable {P : NetworkKey → AtlasDeviceFeatureManager → Prop}

theorem saved_init (device : DeviceTable) : Saved setup P (init device) := fun _ => .inl ⟨rfl, rfl⟩

/-- A network in memory satisfies `P`. -/
theorem Saved.memory {s : Networks} (h : Saved setup P s) (hmemory : s.memory key = some manager) :
    P key manager := by
  rcases h key with ⟨-, hnone⟩ | ⟨manager', -, hP, hsame⟩
  · rw [hnone] at hmemory
    cases hmemory
  · exact hsame manager hmemory ▸ hP

/-- One network is written, and the rows of the others are left alone. -/
theorem Saved.update {s : Networks} (h : Saved setup P s) (hkeeps : Keeps setup db key manager)
    (hP : P key manager)
    (hother : ∀ key' ≠ key, db.networkRows key' = s.db.networkRows key' ∧
      db.getFeature key' = s.db.getFeature key') :
    Saved setup P ⟨db, Function.update s.memory key (some manager)⟩ := by
  intro key'
  by_cases heq : key' = key
  · subst heq
    refine .inr ⟨manager, hkeeps, hP, fun manager' hmanager' => ?_⟩
    simpa [eq_comm] using hmanager'
  · obtain ⟨hrows, hfeature⟩ := hother key' heq
    simp only [Function.update_of_ne heq]
    rcases h key' with ⟨hnone, hmemory⟩ | ⟨manager', hkeeps', hP', hmemory⟩
    · exact .inl ⟨hrows.trans hnone, hmemory⟩
    · exact .inr ⟨manager', hkeeps'.congr hrows hfeature, hP', hmemory⟩

theorem Saved.restart {s : Networks} (h : Saved setup P s) :
    Saved setup P (step setup s .restart).1 := by
  intro key
  rcases h key with ⟨hnone, -⟩ | ⟨manager, hkeeps, hP, -⟩
  · exact .inl ⟨hnone, rfl⟩
  · exact .inr ⟨manager, hkeeps, hP, nofun⟩

theorem Saved.load {s : Networks} (h : Saved setup P s) (key : NetworkKey)
    (hnew : P key (initReputation (setup key.networkTypeId).threshold
      (setup key.networkTypeId).weights none)) :
    Saved setup P (step setup s (.load key)).1 := by
  rw [step]
  split
  case isTrue => exact h
  case isFalse hload =>
    simp only [Bool.or_eq_true, not_or, Bool.not_eq_true, Option.isNone_eq_false_iff,
      Option.isSome_iff_exists] at hload
    obtain ⟨-, deviceId, hdevice⟩ := hload
    rcases h key with ⟨hnone, -⟩ | ⟨manager, hkeeps, hP, -⟩
    · -- there is no row of the network, so it is inserted
      have hcheck : s.db.checkDeviceForFeatures key = false := by
        simp [BayesDatabase.checkDeviceForFeatures, BayesDatabase.getFeature,
          BayesDatabase.getIdNetwork, hnone]
      have hmanager : loaded setup s.db key = initReputation (setup key.networkTypeId).threshold
          (setup key.networkTypeId).weights none := by
        simp [loaded, BayesDatabase.stored, hcheck]
      simp only [loadedDb, hcheck, Bool.false_eq_true, if_false]
      exact h.update (Keeps.insert hdevice hnone hmanager) (hmanager ▸ hnew) fun key' hne =>
        BayesDatabase.insertBayesParams_of_ne hdevice hnone hne
    · simp only [loadedDb, hkeeps.checkDeviceForFeatures, hkeeps.loaded, if_true]
      exact h.update hkeeps hP fun key' _ => ⟨rfl, rfl⟩

theorem Saved.feedback {s : Networks} (h : Saved setup P s) (key : NetworkKey)
    (feedbackMatrix : FeedbackMatrix)
    (hP : ∀ manager, s.memory key = some manager → P key manager →
      P key (manager.computeReputationWith feedbackMatrix)) :
    Saved setup P (step setup s (.feedback key feedbackMatrix)).1 := by
  rw [step]
  cases hmemory : s.memory key with
  | none => exact h
  | some manager =>
    rcases h key with ⟨-, hnone⟩ | ⟨manager', hkeeps, hPmanager, hsame⟩
    · rw [hnone] at hmemory
      cases hmemory
    · obtain rfl := hsame manager hmemory
      exact h.update (hkeeps.feedback feedbackMatrix) (hP manager hmemory hPmanager) fun key' hne =>
        BayesDatabase.updateBayesParams_of_ne hne

theorem saved_run (setup : ℕ → NetworkSetup) (device : DeviceTable) (es : List NetworkEvent) :
    Saved setup (fun _ _ => True) (run (step setup) (init device) es) := by
  refine Reachable.invariant (fun s e h => ?_) (saved_init device) ⟨es, rfl⟩
  cases e with
  | load key => exact h.load key trivial
  | feedback key feedbackMatrix => exact h.feedback key feedbackMatrix fun _ _ _ => trivial
  | restart => exact h.restart

/-- Whatever networks were set up and whatever feedback they got, also across restarts, a network in
memory is loaded from the database with its totals and its features, in their order and with their
weights and counters. The reputation computed from them is the one in memory, and a gateway that is
started again comes to the same network. -/
theorem reputation_survives_restart (setup : ℕ → NetworkSetup) (device : DeviceTable)
    (es : List NetworkEvent) (key : NetworkKey) (manager : AtlasDeviceFeatureManager)
    (h : (run (step setup) (init device) es).memory key = some manager) :
    let s := run (step setup) (init device) es
    let stored := AtlasDeviceFeatureManager.selectBayesParams
      { new with feedbackThreshold := (setup key.networkTypeId).threshold }
      (s.db.selectBayesParams key)
    stored.totalTrans = manager.totalTrans ∧
      stored.totalSuccessTrans = manager.totalSuccessTrans ∧
      stored.features = manager.features ∧
      stored.computeReputation.deviceReputation = manager.deviceReputation ∧
      (run (step setup) s [.restart, .load key]).memory key = some manager := by
  intro s stored
  rcases saved_run setup device es key with ⟨-, hnone⟩ | ⟨manager', hkeeps, -, hsame⟩
  · rw [hnone] at h
    cases h
  · obtain rfl := hsame manager h
    have hstored : stored = { manager with deviceReputation := 0 } := hkeeps.selectBayesParams
    refine ⟨by rw [hstored], by rw [hstored], by rw [hstored], ?_, ?_⟩
    · rw [hstored, hkeeps.reputation]
    · obtain ⟨deviceId, hdevice⟩ := Option.isSome_iff_exists.mp hkeeps.getIdDevice
      simp [step, hdevice, hkeeps.loaded, s]

/-- The system network of the lamp after one period with full scores. -/
theorem reputation_survives_restart_lamp :
    let es : List NetworkEvent := [.load ⟨bytes "lamp", 0⟩, .load ⟨bytes "door", 0⟩,
      .feedback ⟨bytes "lamp", 0⟩
        [(.registerTime, 1), (.keepalivePackets, 1), (.validPackets, 1)]]
    let s := run (step gatewaySetup) (init sampleDevices) es
    let manager : AtlasDeviceFeatureManager :=
      ⟨[⟨.registerTime, 2 / 5, 1⟩, ⟨.keepalivePackets, 3 / 10, 1⟩, ⟨.validPackets, 3 / 10, 1⟩], 1,
        1, 1, 4 / 5⟩
    s.memory ⟨bytes "lamp", 0⟩ = some manager ∧
      (run (step gatewaySetup) s [.restart, .load ⟨bytes "lamp", 0⟩]).memory ⟨bytes "lamp", 0⟩ =
        some manager := by
  intro es s manager
  have hmemory : s.memory ⟨bytes "lamp", 0⟩ = some manager := by decide +kernel
  exact ⟨hmemory,
    (reputation_survives_restart gatewaySetup sampleDevices es _ manager hmemory).2.2.2.2⟩

end Networks

end Atlas.Reputation

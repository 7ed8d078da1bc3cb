import Atlas.Gateway.Database
import Atlas.Lib.Lists
import Atlas.Reputation.Networks

/-! # The tables of the networks

A network is kept in two tables: a row with its totals, and one row for each feature. The statements
find the rows by device, network type and feature type. The rows of two networks are never the same
(`eq_of_mem_getIdNetwork`), so writing one network leaves the others alone
(`updateBayesParams_of_ne`, `insertBayesParams_of_ne`).

All statements succeed, and rows are returned in the order of their insertion.

Reference: `sql/AtlasSQLite.cpp` (`insertBayesParams`, `selectBayesParams`, `updateBayesParams`,
`checkDeviceForFeatures`).
-/

namespace Atlas.Reputation

open Gateway
open AtlasDeviceFeatureManager (BayesParams)

/-! ## The tables -/

/-- A network of a device. -/
structure NetworkKey where
  identity : StdString
  networkTypeId : ℕ
deriving DecidableEq

/-- A row of `NaiveBayesNetwork`. -/
structure NetworkRow where
  id : ℕ
  deviceId : ℕ
  networkTypeId : ℕ
  totalTrans : ℕ
  totalSuccessTrans : ℕ

/-- A row of `NaiveBayesFeature`. -/
structure FeatureRow where
  networkId : ℕ
  feature : AtlasDeviceFeature

/-- The tables of the networks. `AUTOINCREMENT` gives a network an id that was never used before,
and a feature refers to a network. -/
structure BayesDatabase where
  device : DeviceTable
  network : List NetworkRow
  feature : List FeatureRow
  nextId : ℕ
  network_nodup : (network.map (·.id)).Nodup
  network_lt : ∀ r ∈ network, r.id < nextId
  feature_lt : ∀ r ∈ feature, r.networkId < nextId

namespace BayesDatabase

variable (key : NetworkKey) (manager : AtlasDeviceFeatureManager) (db : BayesDatabase)

/-- The row is of this network: the join with `Device`, and the two conditions of the statements. -/
def isNetwork (r : NetworkRow) : Bool :=
  db.device.isDevice key.identity r.deviceId && r.networkTypeId = key.networkTypeId

/-- The rows of a network. -/
def networkRows : List NetworkRow := db.network.filter (db.isNetwork key)

/-- `SQL_GET_ID_NETWORK`. -/
def getIdNetwork : List ℕ := (db.networkRows key).map (·.id)

/-- The rows of `SQL_GET_FEATURE`. -/
def getFeature : List AtlasDeviceFeature :=
  (db.feature.filter fun r => r.networkId ∈ db.getIdNetwork key).map (·.feature)

/-- `checkDeviceForFeatures`. -/
def checkDeviceForFeatures : Bool := db.getFeature key ≠ []

/-- What `selectNetwork` and `selectFeatures` read. -/
def selectBayesParams : BayesParams where
  network := (db.networkRows key).head?.map fun r => (r.totalTrans, r.totalSuccessTrans)
  features := db.getFeature key
  success := true

/-- What a device that comes into memory finds of its network. -/
def stored : Option BayesParams :=
  if db.checkDeviceForFeatures key then some (db.selectBayesParams key) else none

/-- The set operation of `SQL_UPDATE_NETWORK` on a row. -/
def setTotals (r : NetworkRow) : NetworkRow :=
  if db.isNetwork key r then
    { r with totalTrans := manager.totalTrans, totalSuccessTrans := manager.totalSuccessTrans }
  else r

theorem id_setTotals (r : NetworkRow) : (db.setTotals key manager r).id = r.id := by
  rw [setTotals]
  split <;> rfl

theorem map_id_setTotals :
    (db.network.map (db.setTotals key manager)).map (·.id) = db.network.map (·.id) := by
  rw [List.map_map]
  exact List.map_congr_left fun r _ => db.id_setTotals key manager r

theorem setTotals_lt : ∀ r ∈ db.network.map (db.setTotals key manager), r.id < db.nextId := by
  intro r hr
  obtain ⟨r', hr', rfl⟩ := List.mem_map.mp hr
  exact db.id_setTotals key manager r' ▸ db.network_lt r' hr'

/-- `updateNetwork`. -/
def updateNetwork : BayesDatabase :=
  { db with
    network := db.network.map (db.setTotals key manager)
    network_nodup := db.map_id_setTotals key manager ▸ db.network_nodup
    network_lt := db.setTotals_lt key manager }

/-- The set operation of `SQL_UPDATE_FEATURE` on a row. -/
def setSuccessTrans (f : AtlasDeviceFeature) (r : FeatureRow) : FeatureRow :=
  if r.networkId ∈ db.getIdNetwork key ∧ r.feature.featureType = f.featureType then
    { r with feature := { r.feature with successTrans := f.successTrans } }
  else r

theorem networkId_setSuccessTrans (f : AtlasDeviceFeature) (r : FeatureRow) :
    (db.setSuccessTrans key f r).networkId = r.networkId := by
  rw [setSuccessTrans]
  split <;> rfl

theorem setSuccessTrans_lt (f : AtlasDeviceFeature) :
    ∀ r ∈ db.feature.map (db.setSuccessTrans key f), r.networkId < db.nextId := by
  intro r hr
  obtain ⟨r', hr', rfl⟩ := List.mem_map.mp hr
  exact db.networkId_setSuccessTrans key f r' ▸ db.feature_lt r' hr'

/-- One iteration of `updateFeatures`. -/
def updateFeature (f : AtlasDeviceFeature) : BayesDatabase :=
  { db with
    feature := db.feature.map (db.setSuccessTrans key f)
    feature_lt := db.setSuccessTrans_lt key f }

/-- `updateFeatures`. -/
def updateFeatures : BayesDatabase := manager.features.foldl (fun db f => db.updateFeature key f) db

/-- `updateBayesParams`. -/
def updateBayesParams : BayesDatabase := (db.updateNetwork key manager).updateFeatures key manager

/-- The row `insertNetwork` inserts for a device. -/
def newRow (deviceId : ℕ) : NetworkRow :=
  ⟨db.nextId, deviceId, key.networkTypeId, manager.totalTrans, manager.totalSuccessTrans⟩

theorem nodup_concat (deviceId : ℕ) :
    ((db.network ++ [db.newRow key manager deviceId]).map (·.id)).Nodup := by
  exact List.nodup_map_concat db.network_nodup fun r hr => (db.network_lt r hr).ne

theorem concat_lt (deviceId : ℕ) :
    ∀ r ∈ db.network ++ [db.newRow key manager deviceId], r.id < db.nextId + 1 := by
  intro r hr
  rcases List.mem_append.mp hr with hr | hr
  · exact Nat.lt_succ_of_lt (db.network_lt r hr)
  · rw [List.mem_singleton.mp hr]
    exact Nat.lt_succ_self _

/-- `insertNetwork`. The id 0 of a device that is not in its table violates the foreign key. -/
def insertNetwork : BayesDatabase :=
  match db.device.getIdDevice key.identity with
  | none => db
  | some deviceId =>
    { db with
      network := db.network ++ [db.newRow key manager deviceId]
      nextId := db.nextId + 1
      network_nodup := db.nodup_concat key manager deviceId
      network_lt := db.concat_lt key manager deviceId
      feature_lt := fun r hr => Nat.lt_succ_of_lt (db.feature_lt r hr) }

theorem getIdNetwork_lt {id : ℕ} (h : id ∈ db.getIdNetwork key) : id < db.nextId := by
  obtain ⟨r, hr, rfl⟩ := List.mem_map.mp h
  exact db.network_lt r (List.mem_of_mem_filter hr)

theorem append_lt {id : ℕ} (h : (db.getIdNetwork key).head? = some id) :
    ∀ r ∈ db.feature ++ manager.features.map (FeatureRow.mk id), r.networkId < db.nextId := by
  intro r hr
  rcases List.mem_append.mp hr with hr | hr
  · exact db.feature_lt r hr
  · obtain ⟨f, -, rfl⟩ := List.mem_map.mp hr
    exact db.getIdNetwork_lt key (List.mem_of_mem_head? h)

/-- `insertFeatures`. -/
def insertFeatures : BayesDatabase :=
  match h : (db.getIdNetwork key).head? with
  | none => db
  | some networkId =>
    { db with
      feature := db.feature ++ manager.features.map (FeatureRow.mk networkId)
      feature_lt := db.append_lt key manager h }

/-- `insertBayesParams`. -/
def insertBayesParams : BayesDatabase := (db.insertNetwork key manager).insertFeatures key manager

end BayesDatabase

/-! ## Each network has its own rows -/

namespace BayesDatabase

variable {db : BayesDatabase} {key key' : NetworkKey} {manager : AtlasDeviceFeatureManager}

theorem eq_of_isNetwork {r : NetworkRow} (h : db.isNetwork key r = true)
    (h' : db.isNetwork key' r = true) : key = key' := by
  simp only [isNetwork, Bool.and_eq_true, decide_eq_true_eq, DeviceTable.isDevice_iff] at h h'
  have hidentity := DeviceTable.getIdDevice_inj h.1 h'.1
  cases key
  cases key'
  simp_all

theorem eq_of_mem_getIdNetwork {id : ℕ} (h : id ∈ db.getIdNetwork key)
    (h' : id ∈ db.getIdNetwork key') : key = key' := by
  obtain ⟨r, hr, rfl⟩ := List.mem_map.mp h
  obtain ⟨r', hr', hid⟩ := List.mem_map.mp h'
  obtain ⟨hmem, hkey⟩ := List.mem_filter.mp hr
  obtain ⟨hmem', hkey'⟩ := List.mem_filter.mp hr'
  obtain rfl := List.inj_on_of_nodup_map db.network_nodup hmem' hmem hid
  exact eq_of_isNetwork hkey hkey'

/-! ### Updates -/

theorem networkRows_updateNetwork (key' : NetworkKey) :
    (db.updateNetwork key manager).networkRows key' =
      (db.networkRows key').map (db.setTotals key manager) := by
  have hsame : (db.updateNetwork key manager).isNetwork key' ∘ db.setTotals key manager =
      db.isNetwork key' := by
    funext r
    simp only [Function.comp_apply, setTotals]
    split <;> rfl
  rw [networkRows, networkRows, updateNetwork, List.filter_map, ← hsame]
  rfl

@[simp] theorem getIdNetwork_updateNetwork :
    (db.updateNetwork key manager).getIdNetwork key' = db.getIdNetwork key' := by
  rw [getIdNetwork, networkRows_updateNetwork, List.map_map]
  exact List.map_congr_left fun r _ => db.id_setTotals key manager r

@[simp] theorem getFeature_updateNetwork :
    (db.updateNetwork key manager).getFeature key' = db.getFeature key' := by
  simp only [getFeature, getIdNetwork_updateNetwork]
  rfl

/-- The totals of another network stay. -/
theorem networkRows_updateNetwork_of_ne (hne : key' ≠ key) :
    (db.updateNetwork key manager).networkRows key' = db.networkRows key' := by
  rw [networkRows_updateNetwork]
  refine (List.map_congr_left fun r hr => ?_).trans (List.map_id _)
  have hkey' := (List.mem_filter.mp hr).2
  rw [setTotals, if_neg fun hkey => hne (eq_of_isNetwork hkey' hkey)]
  rfl

/-- What the statement for a feature does to the counters of the network. -/
def setCounter (f g : AtlasDeviceFeature) : AtlasDeviceFeature :=
  if g.featureType = f.featureType then { g with successTrans := f.successTrans } else g

theorem getFeature_updateFeature (f : AtlasDeviceFeature) (key' : NetworkKey) :
    (db.updateFeature key f).getFeature key' =
      (db.feature.filter fun r => r.networkId ∈ db.getIdNetwork key').map
        fun r => (db.setSuccessTrans key f r).feature := by
  have hsame : (fun r : FeatureRow => decide (r.networkId ∈ db.getIdNetwork key')) ∘
      db.setSuccessTrans key f = fun r => decide (r.networkId ∈ db.getIdNetwork key') := by
    funext r
    simp only [Function.comp_apply, networkId_setSuccessTrans]
  have hrows : (db.updateFeature key f).getFeature key' =
      ((db.feature.map (db.setSuccessTrans key f)).filter
        fun r => decide (r.networkId ∈ db.getIdNetwork key')).map (·.feature) := rfl
  rw [hrows, List.filter_map, hsame, List.map_map]
  rfl

theorem getFeature_updateFeature_self (f : AtlasDeviceFeature) :
    (db.updateFeature key f).getFeature key = (db.getFeature key).map (setCounter f) := by
  rw [getFeature_updateFeature, getFeature, List.map_map]
  refine List.map_congr_left fun r hr => ?_
  have hid : r.networkId ∈ db.getIdNetwork key := by simpa using (List.mem_filter.mp hr).2
  simp only [Function.comp_apply, setSuccessTrans, setCounter, hid, true_and]
  split <;> rfl

theorem getFeature_updateFeature_of_ne (f : AtlasDeviceFeature) (hne : key' ≠ key) :
    (db.updateFeature key f).getFeature key' = db.getFeature key' := by
  rw [getFeature_updateFeature, getFeature]
  refine List.map_congr_left fun r hr => ?_
  have hid' : r.networkId ∈ db.getIdNetwork key' := by simpa using (List.mem_filter.mp hr).2
  rw [setSuccessTrans, if_neg fun hid => hne (eq_of_mem_getIdNetwork hid' hid.1)]

theorem networkRows_foldl_updateFeature (fs : List AtlasDeviceFeature) (db : BayesDatabase) :
    (fs.foldl (fun db f => db.updateFeature key f) db).networkRows key' = db.networkRows key' := by
  induction fs generalizing db with
  | nil => rfl
  | cons f fs ih =>
    rw [List.foldl_cons, ih]
    rfl

theorem getFeature_foldl_updateFeature_self (fs : List AtlasDeviceFeature) (db : BayesDatabase) :
    (fs.foldl (fun db f => db.updateFeature key f) db).getFeature key =
      fs.foldl (fun counters f => counters.map (setCounter f)) (db.getFeature key) := by
  induction fs generalizing db with
  | nil => rfl
  | cons f fs ih => rw [List.foldl_cons, ih, getFeature_updateFeature_self, List.foldl_cons]

theorem getFeature_foldl_updateFeature_of_ne (hne : key' ≠ key) (fs : List AtlasDeviceFeature)
    (db : BayesDatabase) :
    (fs.foldl (fun db f => db.updateFeature key f) db).getFeature key' = db.getFeature key' := by
  induction fs generalizing db with
  | nil => rfl
  | cons f fs ih => rw [List.foldl_cons, ih, getFeature_updateFeature_of_ne f hne]

theorem map_featureType_eq {fs fs' : List AtlasDeviceFeature}
    (h : fs.map (fun f => (f.featureType, f.weight)) = fs'.map fun f => (f.featureType, f.weight)) :
    fs.map (·.featureType) = fs'.map (·.featureType) := by
  simpa [Function.comp_def] using congrArg (List.map Prod.fst) h

/-- Features with the same types and weights are written one after the other. -/
theorem foldl_setCounter (done : List AtlasDeviceFeature) {old new : List AtlasDeviceFeature}
    (hsame : old.map (fun f => (f.featureType, f.weight)) =
      new.map fun f => (f.featureType, f.weight))
    (hnodup : ((done ++ new).map (·.featureType)).Nodup) :
    new.foldl (fun counters f => counters.map (setCounter f)) (done ++ old) = done ++ new := by
  induction new generalizing done old with
  | nil =>
    obtain rfl : old = [] := by simpa using hsame
    rfl
  | cons g new ih =>
    cases old with
    | nil => simp at hsame
    | cons f old =>
      simp only [List.map_cons, List.cons.injEq, Prod.mk.injEq] at hsame
      obtain ⟨⟨htype, hweight⟩, hrest⟩ := hsame
      have htypes := map_featureType_eq hrest
      have hnext := ih (done ++ [g]) hrest (by simpa using hnodup)
      simp only [List.map_append, List.map_cons, List.nodup_append, List.nodup_cons] at hnodup
      obtain ⟨-, ⟨hnew, -⟩, hdone⟩ := hnodup
      -- neither the features before nor those behind are of this type
      have hbefore : done.map (setCounter g) = done := by
        refine (List.map_congr_left fun f' hf' => ?_).trans (List.map_id _)
        exact if_neg (hdone _ (List.mem_map_of_mem hf') _ List.mem_cons_self)
      have hbehind : old.map (setCounter g) = old := by
        refine (List.map_congr_left fun f' hf' => ?_).trans (List.map_id _)
        refine if_neg fun heq => hnew ?_
        rw [← heq, ← htypes]
        exact List.mem_map_of_mem hf'
      have hwritten : setCounter g f = g := by
        rw [setCounter, if_pos htype, htype, hweight]
      rw [List.foldl_cons, List.map_append, List.map_cons, hbefore, hbehind, hwritten]
      simpa using hnext

/-- The rows of a network after an update of its counters. -/
theorem updateBayesParams_self
    (hsame : (db.getFeature key).map (fun f => (f.featureType, f.weight)) =
      manager.features.map fun f => (f.featureType, f.weight))
    (hnodup : (manager.features.map (·.featureType)).Nodup) :
    (db.updateBayesParams key manager).networkRows key =
        (db.networkRows key).map (db.setTotals key manager) ∧
      (db.updateBayesParams key manager).getFeature key = manager.features := by
  constructor
  · rw [updateBayesParams, updateFeatures, networkRows_foldl_updateFeature,
      networkRows_updateNetwork]
  · rw [updateBayesParams, updateFeatures, getFeature_foldl_updateFeature_self,
      getFeature_updateNetwork]
    exact foldl_setCounter [] hsame hnodup

/-- The rows of another network. -/
theorem updateBayesParams_of_ne (hne : key' ≠ key) :
    (db.updateBayesParams key manager).networkRows key' = db.networkRows key' ∧
      (db.updateBayesParams key manager).getFeature key' = db.getFeature key' := by
  constructor
  · rw [updateBayesParams, updateFeatures, networkRows_foldl_updateFeature,
      networkRows_updateNetwork_of_ne hne]
  · rw [updateBayesParams, updateFeatures, getFeature_foldl_updateFeature_of_ne hne,
      getFeature_updateNetwork]

/-! ### Insertion -/

theorem networkRows_insertNetwork {deviceId : ℕ}
    (h : db.device.getIdDevice key.identity = some deviceId) (key' : NetworkKey) :
    (db.insertNetwork key manager).networkRows key' = db.networkRows key' ++
      if key' = key then [db.newRow key manager deviceId] else [] := by
  have hrow : db.isNetwork key' (db.newRow key manager deviceId) = decide (key' = key) := by
    have hself : db.isNetwork key (db.newRow key manager deviceId) = true := by
      simp [isNetwork, newRow, DeviceTable.isDevice_iff, h]
    by_cases heq : key' = key
    · rw [heq, hself, decide_eq_true rfl]
    · rw [decide_eq_false heq, ← Bool.not_eq_true]
      exact fun hother => heq (eq_of_isNetwork hother hself)
  have hrows : (db.insertNetwork key manager).networkRows key' =
      (db.network ++ [db.newRow key manager deviceId]).filter (db.isNetwork key') := by
    simp only [networkRows, insertNetwork, h]
    rfl
  rw [hrows, List.filter_append, List.filter_singleton, hrow, networkRows]
  by_cases heq : key' = key <;> simp [heq]

/-- The rows of features there were before are not of the new network. -/
theorem getFeature_insertNetwork {deviceId : ℕ}
    (h : db.device.getIdDevice key.identity = some deviceId) (key' : NetworkKey) :
    (db.insertNetwork key manager).getFeature key' = db.getFeature key' := by
  have hfeature : (db.insertNetwork key manager).feature = db.feature := by
    simp only [insertNetwork, h]
  rw [getFeature, getFeature, hfeature]
  congr 1
  refine List.filter_congr fun r hr => ?_
  have hlt := db.feature_lt r hr
  rw [getIdNetwork, networkRows_insertNetwork h, List.map_append]
  by_cases heq : key' = key
  · have hne : r.networkId ≠ db.nextId := hlt.ne
    simp [heq, newRow, hne, getIdNetwork]
  · simp [heq, getIdNetwork]

theorem networkRows_insertFeatures (key' : NetworkKey) :
    (db.insertFeatures key manager).networkRows key' = db.networkRows key' := by
  rw [insertFeatures]
  split <;> rfl

theorem getFeature_insertFeatures {networkId : ℕ}
    (h : (db.getIdNetwork key).head? = some networkId) (key' : NetworkKey) :
    (db.insertFeatures key manager).getFeature key' = db.getFeature key' ++
      if key' = key then manager.features else [] := by
  have hmem : networkId ∈ db.getIdNetwork key := List.mem_of_mem_head? h
  have hfeatures : (db.insertFeatures key manager).getFeature key' =
      ((db.feature ++ manager.features.map (FeatureRow.mk networkId)).filter
        fun r => r.networkId ∈ db.getIdNetwork key').map (·.feature) := by
    rw [insertFeatures]
    split
    · rename_i hnone
      rw [hnone] at h
      cases h
    · rename_i id hid
      obtain rfl : id = networkId := Option.some.inj (hid.symm.trans h)
      rfl
  rw [hfeatures, List.filter_append, List.map_append, getFeature]
  congr 1
  by_cases heq : key' = key
  · subst heq
    simp [List.filter_map, Function.comp_def, hmem]
  · have hnot : networkId ∉ db.getIdNetwork key' :=
      fun hmem' => heq (eq_of_mem_getIdNetwork hmem' hmem)
    simp [List.filter_map, Function.comp_def, hnot, heq]

/-- A network without rows is inserted under the new id. -/
theorem head?_getIdNetwork_insertNetwork {deviceId : ℕ}
    (h : db.device.getIdDevice key.identity = some deviceId) (hnone : db.networkRows key = []) :
    ((db.insertNetwork key manager).getIdNetwork key).head? = some db.nextId := by
  rw [getIdNetwork, networkRows_insertNetwork h, hnone, if_pos rfl]
  rfl

/-- The rows of a network after its insertion. -/
theorem insertBayesParams_self {deviceId : ℕ}
    (h : db.device.getIdDevice key.identity = some deviceId) (hnone : db.networkRows key = []) :
    (db.insertBayesParams key manager).networkRows key = [db.newRow key manager deviceId] ∧
      (db.insertBayesParams key manager).getFeature key = manager.features := by
  have hfeature : db.getFeature key = [] := by simp [getFeature, getIdNetwork, hnone]
  constructor
  · rw [insertBayesParams, networkRows_insertFeatures, networkRows_insertNetwork h, hnone,
      if_pos rfl, List.nil_append]
  · rw [insertBayesParams, getFeature_insertFeatures (head?_getIdNetwork_insertNetwork h hnone),
      getFeature_insertNetwork h, hfeature, if_pos rfl, List.nil_append]

/-- The rows of another network. -/
theorem insertBayesParams_of_ne {deviceId : ℕ}
    (h : db.device.getIdDevice key.identity = some deviceId) (hnone : db.networkRows key = [])
    (hne : key' ≠ key) :
    (db.insertBayesParams key manager).networkRows key' = db.networkRows key' ∧
      (db.insertBayesParams key manager).getFeature key' = db.getFeature key' := by
  constructor
  · rw [insertBayesParams, networkRows_insertFeatures, networkRows_insertNetwork h, if_neg hne,
      List.append_nil]
  · rw [insertBayesParams, getFeature_insertFeatures (head?_getIdNetwork_insertNetwork h hnone),
      getFeature_insertNetwork h, if_neg hne, List.append_nil]

end BayesDatabase

end Atlas.Reputation

import Atlas.Reputation.Feedback
import Atlas.Reputation.Persistence

/-! # Reputation stays a probability

The devices in memory together with the tables their networks are loaded from and written to, across
restarts of the gateway. All statements succeed, and rows are returned in the order of their
insertion.

The command types say that a request has one score for each feature, but nothing checks it, and a
feature that scores well twice in one transaction has then more successful transactions than its
network. Without such a repetition, and as long as the counters stay in the range of their type,
every network in memory or in the tables is in order (`Proper`): an event of the devices is a
sequence of events of their networks (`networks_getDevice`, `networks_subAlarmCallback`,
`networks_updateDataReputation`).

Reference: `device/AtlasDeviceManager.cpp`, `reputation/AtlasFeatureReputation.cpp`,
`commands/AtlasCommandType.h`.
-/

namespace Atlas.Reputation

open ByteOrder EventMachine Gateway
open AtlasDeviceFeatureManager (systemWeights dataWeights)
open Networks (gatewaySetup loaded loadedDb Saved)

/-! ## The devices and their tables -/

/-- The devices in memory, and the tables of their networks. -/
structure Store where
  db : BayesDatabase
  devices : Devices

namespace Store

/-- `getDevice`, with `initSystemReputation` and `initDataReputation`. -/
def getDevice (identity : StdString) (s : Store) : Store × Option AtlasDevice :=
  match s.devices identity with
  | some device => (s, some device)
  | none =>
    if s.db.device.selectPsk identity = [] then (s, none)
    else
      let db := loadedDb gatewaySetup s.db ⟨identity, 0⟩
      let device : AtlasDevice :=
        ⟨false, loaded gatewaySetup s.db ⟨identity, 0⟩, loaded gatewaySetup db ⟨identity, 101⟩⟩
      (⟨loadedDb gatewaySetup db ⟨identity, 101⟩, Function.update s.devices identity (some device)⟩,
        some device)

/-- `subAlarmCallback` for a device. -/
def subAlarmCallback (feedback : StdString → SystemFeedback) (s : Store) (identity : StdString) :
    Store :=
  match s.devices identity with
  | none => s
  | some device =>
    let device := device.subAlarmCallback (feedback identity)
    ⟨s.db.updateBayesParams ⟨identity, 0⟩ device.system,
      Function.update s.devices identity (some device)⟩

/-- `sysRepAlarmCallback`; `order` is the iteration order of the hash map. -/
def sysRepAlarmCallback (feedback : StdString → SystemFeedback) (order : List StdString)
    (s : Store) : Store :=
  order.foldl (subAlarmCallback feedback) s

/-- `updateDataReputation`. -/
def updateDataReputation (identity : StdString) (networkType : ℕ) (feedbackMatrix : FeedbackMatrix)
    (s : Store) : Store :=
  match s.devices.scored identity networkType feedbackMatrix with
  | none => s
  | some device =>
    let device := device.updateData feedbackMatrix
    ⟨s.db.updateBayesParams ⟨identity, networkType⟩ device.data,
      Function.update s.devices identity (some device)⟩

/-- The registration of a device in memory begins or ends. -/
def setRegistered (registered : Bool) (identity : StdString) (s : Store) : Store :=
  { s with devices := s.devices.setRegistered registered identity }

/-- What `feedbackReputationCallback` calls. -/
def calls : Calls Store := ⟨getDevice, updateDataReputation⟩

end Store

/-- What happens to the reputation of the devices. Other requests bring a device into memory,
register it, or let its registration expire. -/
inductive StoreEvent where
  | getDevice (identity : StdString)
  | register (identity : StdString)
  | expire (identity : StdString)
  | feedback (tmp : UInt16) (pskIdentity : StdString) (reqPayload : List UInt8)
  | sysRepAlarm (feedback : StdString → SystemFeedback) (order : List StdString)
  | restart

variable (host : ByteOrder)

namespace Store

/-- One event. -/
def step (s : Store) : StoreEvent → Store × List CoapResponse
  | .getDevice identity => ((s.getDevice identity).1, [])
  | .register identity => ((s.getDevice identity).1.setRegistered true identity, [])
  | .expire identity => (s.setRegistered false identity, [])
  | .feedback tmp pskIdentity reqPayload =>
    match calls.feedbackReputationCallback host tmp s pskIdentity reqPayload with
    | none => (s, [])
    | some (s, response) => (s, [response])
  | .sysRepAlarm feedback order => (s.sysRepAlarmCallback feedback order, [])
  | .restart => ({ s with devices := fun _ => none }, [])

/-- A gateway that has not seen any device yet. -/
def start (device : DeviceTable) : Store := ⟨(Networks.init device).db, fun _ => none⟩

end Store

/-! ## The networks of the devices -/

/-- `getReputation`: the network of this type, if the device has one. -/
def AtlasDevice.network (device : AtlasDevice) (networkType : ℕ) :
    Option AtlasDeviceFeatureManager :=
  if networkType = 0 then some device.system
  else if networkType = 101 then some device.data
  else none

/-- The networks of the devices in memory. -/
def Devices.networks (devices : Devices) (key : NetworkKey) : Option AtlasDeviceFeatureManager :=
  (devices key.identity).bind (·.network key.networkTypeId)

namespace Devices

variable {devices : Devices} {identity : StdString} {device : AtlasDevice}

theorem networks_eq (h : devices identity = some device) (networkType : ℕ) :
    devices.networks ⟨identity, networkType⟩ = device.network networkType := by
  rw [networks, h, Option.bind_some]

theorem networks_update_of_ne (device : AtlasDevice) {key : NetworkKey}
    (h : key.identity ≠ identity) :
    networks (Function.update devices identity (some device)) key = devices.networks key := by
  rw [networks, networks, Function.update_of_ne h]

/-- A device in memory changes in one network. -/
theorem networks_update (h : devices identity = some device) (device' : AtlasDevice)
    (networkType : ℕ)
    {manager : AtlasDeviceFeatureManager} (hnew : device'.network networkType = some manager)
    (hother : ∀ n ≠ networkType, device'.network n = device.network n) :
    networks (Function.update devices identity (some device')) =
      Function.update devices.networks ⟨identity, networkType⟩ (some manager) := by
  funext key
  obtain ⟨identity', n⟩ := key
  by_cases hidentity : identity' = identity
  · subst hidentity
    rw [networks_eq (Function.update_self ..)]
    by_cases hn : n = networkType
    · rw [hn, Function.update_self, hnew]
    · rw [Function.update_of_ne (by simp [hn]), networks_eq h, hother n hn]
  · rw [networks_update_of_ne device' hidentity, Function.update_of_ne (by simp [hidentity])]

/-- A device that was not in memory brings its two networks. -/
theorem networks_update_of_none (h : devices identity = none) (device : AtlasDevice) :
    networks (Function.update devices identity (some device)) =
      Function.update (Function.update devices.networks ⟨identity, 0⟩ (some device.system))
        ⟨identity, 101⟩ (some device.data) := by
  funext key
  obtain ⟨identity', n⟩ := key
  by_cases hidentity : identity' = identity
  · subst hidentity
    rw [networks_eq (Function.update_self ..), AtlasDevice.network]
    by_cases hzero : n = 0
    · subst hzero
      rw [Function.update_of_ne (by simp), Function.update_self, if_pos rfl]
    · by_cases hdata : n = 101
      · subst hdata
        rw [Function.update_self, if_neg hzero, if_pos rfl]
      · rw [Function.update_of_ne (by simp [hdata]), Function.update_of_ne (by simp [hzero]),
          networks, h, Option.bind_none, if_neg hzero, if_neg hdata]
  · rw [networks_update_of_ne _ hidentity, Function.update_of_ne (by simp [hidentity]),
      Function.update_of_ne (by simp [hidentity])]

/-- The networks do not depend on the registration. -/
@[simp] theorem networks_setRegistered (registered : Bool) (identity : StdString)
    (devices : Devices) :
    (devices.setRegistered registered identity).networks = devices.networks := by
  rw [setRegistered]
  split
  case h_1 => rfl
  case h_2 device hdevice =>
    funext key
    by_cases hidentity : key.identity = identity
    · rw [networks, networks, hidentity, Function.update_self, hdevice]
      rfl
    · exact networks_update_of_ne _ hidentity

end Devices

namespace Store

variable {s : Store} {identity : StdString}

/-- The tables, and the networks in memory. -/
def networks (s : Store) : Networks := ⟨s.db, s.devices.networks⟩

theorem device_loadedDb (db : BayesDatabase) (key : NetworkKey) :
    (loadedDb gatewaySetup db key).device = db.device := by
  have hnetwork : ∀ manager, (db.insertNetwork key manager).device = db.device := by
    intro manager
    rw [BayesDatabase.insertNetwork]
    split <;> rfl
  rw [loadedDb, BayesDatabase.insertBayesParams, BayesDatabase.insertFeatures]
  split
  · rfl
  · split
    · exact hnetwork _
    · exact hnetwork _

/-- A device that comes into memory has its two networks loaded. -/
theorem networks_getDevice (identity : StdString) (s : Store) :
    (s.getDevice identity).1.networks = s.networks ∨
      (s.getDevice identity).1.networks = run (Networks.step gatewaySetup) s.networks
        [.load ⟨identity, 0⟩, .load ⟨identity, 101⟩] := by
  rw [getDevice]
  cases hdevice : s.devices identity with
  | some device => exact .inl rfl
  | none =>
    by_cases hpsk : s.db.device.selectPsk identity = []
    · exact .inl (by simp [hpsk])
    · right
      obtain ⟨deviceId, hid⟩ :=
        DeviceTable.getIdDevice_of_hasPsk (DeviceTable.selectPsk_ne_nil_iff.mp hpsk)
      have hmemory : ∀ n, s.devices.networks ⟨identity, n⟩ = none := by
        intro n
        rw [Devices.networks, hdevice, Option.bind_none]
      simp only [hpsk, if_false, networks, run_cons, run_nil, Networks.step, hmemory, hid,
        Option.isSome_none, Option.isNone_some, Bool.or_false, Bool.false_eq_true,
        Function.update_of_ne (show (⟨identity, 101⟩ : NetworkKey) ≠ ⟨identity, 0⟩ by simp),
        device_loadedDb]
      rw [Devices.networks_update_of_none hdevice]

/-- The alarm gives feedback to the system network. -/
theorem networks_subAlarmCallback (feedback : StdString → SystemFeedback) (s : Store)
    (identity : StdString) :
    (s.subAlarmCallback feedback identity).networks =
      (Networks.step gatewaySetup s.networks
        (.feedback ⟨identity, 0⟩ (feedback identity).matrix)).1 := by
  rw [subAlarmCallback, Networks.step]
  cases hdevice : s.devices identity with
  | none =>
    have hmemory : s.networks.memory ⟨identity, 0⟩ = none := by
      show s.devices.networks ⟨identity, 0⟩ = none
      rw [Devices.networks, hdevice, Option.bind_none]
    rw [hmemory]
  | some device =>
    have hmemory : s.networks.memory ⟨identity, 0⟩ = some device.system :=
      Devices.networks_eq hdevice 0
    have hupdate :=
      Devices.networks_update hdevice (device.subAlarmCallback (feedback identity)) 0 rfl
      fun n hn => by simp only [AtlasDevice.network, if_neg hn]; rfl
    rw [hmemory]
    dsimp only
    rw [networks, hupdate]
    rfl

/-- The other devices stay as they are. -/
theorem devices_subAlarmCallback_of_ne (feedback : StdString → SystemFeedback) (s : Store)
    {identity' : StdString} (h : identity' ≠ identity) :
    (s.subAlarmCallback feedback identity).devices identity' = s.devices identity' := by
  rw [subAlarmCallback]
  split
  case h_1 => rfl
  case h_2 => exact Function.update_of_ne h ..

/-- Scores are given to the data network. -/
theorem networks_updateDataReputation {networkType : ℕ} {feedbackMatrix : FeedbackMatrix}
    {device : AtlasDevice}
    (h : s.devices.scored identity networkType feedbackMatrix = some device) :
    (s.updateDataReputation identity networkType feedbackMatrix).networks =
      (Networks.step gatewaySetup s.networks (.feedback ⟨identity, 101⟩ feedbackMatrix)).1 := by
  obtain ⟨hdevice, rfl⟩ := Devices.scored_eq_some h
  have hmemory : s.networks.memory ⟨identity, 101⟩ = some device.data :=
    Devices.networks_eq hdevice 101
  have hupdate := Devices.networks_update hdevice (device.updateData feedbackMatrix) 101 rfl
    fun n hn => by simp only [AtlasDevice.network, if_neg hn]; rfl
  rw [updateDataReputation, h, Networks.step, hmemory]
  dsimp only
  rw [networks, hupdate]
  rfl

end Store

/-! ## One event -/

/-- A network in order, with counters in the range of their type. -/
def Proper (key : NetworkKey) (manager : AtlasDeviceFeatureManager) : Prop :=
  manager.InOrder (gatewaySetup key.networkTypeId).weights ∧ manager.totalTrans ≤ 2147483647

/-- A new network is in order. -/
theorem proper_new (key : NetworkKey) :
    Proper key (AtlasDeviceFeatureManager.initReputation (gatewaySetup key.networkTypeId).threshold
      (gatewaySetup key.networkTypeId).weights none) := by
  obtain ⟨identity, networkType⟩ := key
  refine ⟨?_, Nat.zero_le _⟩
  have hsystem : (systemWeights.map Prod.fst).Nodup := by decide
  have hdata : (dataWeights.map Prod.fst).Nodup := by decide
  cases networkType with
  | zero => exact AtlasDeviceFeatureManager.inOrder_initReputation_none hsystem
  | succ n => exact AtlasDeviceFeatureManager.inOrder_initReputation_none hdata

/-- A matrix that credits no feature twice keeps the network in order, if it can still count. -/
theorem Proper.computeReputationWith {key : NetworkKey} {manager : AtlasDeviceFeatureManager}
    (h : Proper key manager) (hcount : manager.totalTrans < 2147483647)
    {feedbackMatrix : FeedbackMatrix} (honce : ∀ type, manager.credits feedbackMatrix type ≤ 1) :
    Proper key (manager.computeReputationWith feedbackMatrix) := by
  refine ⟨h.1.computeReputationWith honce, ?_⟩
  rw [AtlasDeviceFeatureManager.totalTrans_computeReputationWith]
  exact hcount

namespace Store

variable {s : Store} {identity : StdString}

/-- Every network in memory or in the tables is in order, and the tables hold what is in memory. -/
def InOrder (s : Store) : Prop := Saved gatewaySetup Proper s.networks

namespace InOrder

theorem getDevice (h : s.InOrder) (identity : StdString) : (s.getDevice identity).1.InOrder := by
  rw [InOrder]
  obtain heq | heq := networks_getDevice identity s
  · rw [heq]
    exact h
  · rw [heq]
    have hsystem := Saved.load h ⟨identity, 0⟩ (proper_new _)
    exact hsystem.load ⟨identity, 101⟩ (proper_new _)

theorem setRegistered (h : s.InOrder) (registered : Bool) (identity : StdString) :
    (s.setRegistered registered identity).InOrder := by
  rw [InOrder, networks, Store.setRegistered, Devices.networks_setRegistered]
  exact h

/-- The alarm names each feature of the system network once. -/
theorem subAlarmCallback (h : s.InOrder) (feedback : StdString → SystemFeedback)
    (hcount : ∀ device ∈ s.devices identity, device.system.totalTrans < 2147483647) :
    (s.subAlarmCallback feedback identity).InOrder := by
  rw [InOrder, networks_subAlarmCallback]
  refine Saved.feedback h _ _ fun manager hmanager hproper => hproper.computeReputationWith ?_ ?_
  · obtain ⟨device, hdevice, hsystem⟩ := Option.bind_eq_some_iff.mp hmanager
    cases hsystem
    exact hcount device hdevice
  · have honce : ((feedback identity).matrix.map Prod.fst).Nodup := by simp [SystemFeedback.matrix]
    exact AtlasDeviceFeatureManager.credits_le_one_of_nodup honce

/-- The alarm visits no device twice, so each network counts one transaction. -/
theorem sysRepAlarmCallback (h : s.InOrder) (feedback : StdString → SystemFeedback)
    {order : List StdString} (hnodup : order.Nodup)
    (hcount : ∀ identity ∈ order, ∀ device ∈ s.devices identity,
      device.system.totalTrans < 2147483647) :
    (s.sysRepAlarmCallback feedback order).InOrder := by
  induction order generalizing s with
  | nil => exact h
  | cons identity order ih =>
    rw [List.nodup_cons] at hnodup
    rw [List.forall_mem_cons] at hcount
    refine ih (h.subAlarmCallback feedback hcount.1) hnodup.2 fun identity' hmem device hdevice =>
      ?_
    -- the devices still to come have not changed
    have hne : identity' ≠ identity := fun heq => hnodup.1 (heq ▸ hmem)
    rw [devices_subAlarmCallback_of_ne feedback s hne] at hdevice
    exact hcount.2 identity' hmem device hdevice

theorem updateDataReputation (h : s.InOrder) {networkType : ℕ} {feedbackMatrix : FeedbackMatrix}
    (hcount : ∀ device ∈ s.devices identity, device.data.totalTrans < 2147483647)
    (honce : ∀ manager, AtlasDeviceFeatureManager.InOrder dataWeights manager →
      ∀ type, manager.credits feedbackMatrix type ≤ 1) :
    (s.updateDataReputation identity networkType feedbackMatrix).InOrder := by
  cases hscored : s.devices.scored identity networkType feedbackMatrix with
  | none =>
    rw [Store.updateDataReputation, hscored]
    exact h
  | some device =>
    rw [InOrder, networks_updateDataReputation hscored]
    refine Saved.feedback h _ _ fun manager hmanager hproper =>
      hproper.computeReputationWith ?_ (honce manager hproper.1)
    obtain ⟨device, hdevice, hdata⟩ := Option.bind_eq_some_iff.mp hmanager
    cases hdata
    exact hcount device hdevice

end InOrder

end Store

/-- A feedback request scores no feature with 80 percent or more twice. -/
def GoodScoresOnce (reqPayload : List UInt8) : Prop :=
  goodScores (requestRecords host reqPayload) CommandType.feedbackSensor ≤ 1 ∧
    goodScores (requestRecords host reqPayload) CommandType.feedbackResponseTime ≤ 1

instance (reqPayload : List UInt8) : Decidable (GoodScoresOnce host reqPayload) :=
  inferInstanceAs (Decidable (_ ∧ _))

/-- The scores of a request credit no feature twice, if none is good twice. -/
theorem credits_le_one_of_goodScoresOnce {manager : AtlasDeviceFeatureManager}
    (h : AtlasDeviceFeatureManager.InOrder dataWeights manager) {tmp : UInt16}
    {pskIdentity : StdString}
    {reqPayload : List UInt8} (htwo : TwoByteFields (requestRecords host reqPayload))
    (honce : GoodScoresOnce host reqPayload)
    {result : StdString × UInt16 × FeedbackMatrix}
    (hread : readFeedback host tmp pskIdentity reqPayload = .ok result)
    (type : AtlasDeviceFeatureType) : manager.credits result.2.2 type ≤ 1 := by
  have hsettles := settles_readFeedback host tmp pskIdentity htwo
  rw [hread] at hsettles
  have hmatrix : result.2.2 = (requestRecords host reqPayload).filterMap scoreEntry := hsettles
  rw [hmatrix, credits_filterMap_scoreEntry h]
  cases type with
  | sensor => exact honce.1
  | respTime => exact honce.2
  | _ => exact Nat.zero_le 1

namespace StoreEvent

/-- The fields of fixed width of a request are two bytes long, and the alarm visits no device
twice. -/
def Admissible : StoreEvent → Prop
  | .feedback _ _ reqPayload => TwoByteFields (requestRecords host reqPayload)
  | .sysRepAlarm _ order => order.Nodup
  | .getDevice _ | .register _ | .expire _ | .restart => True

/-- A feedback request scores no feature well twice. -/
def ScoresOnce : StoreEvent → Prop
  | .feedback _ _ reqPayload => GoodScoresOnce host reqPayload
  | .getDevice _ | .register _ | .expire _ | .sysRepAlarm _ _ | .restart => True

instance : (event : StoreEvent) → Decidable (event.ScoresOnce host)
  | .feedback _ _ reqPayload => inferInstanceAs (Decidable (GoodScoresOnce host reqPayload))
  | .getDevice _ | .register _ | .expire _ | .sysRepAlarm _ _ | .restart => .isTrue trivial

end StoreEvent

namespace Store

/-- Every network in memory can count another transaction. Only devices of the table are in
memory. -/
def CanCount (s : Store) : Prop :=
  ∀ row ∈ s.db.device.rows, ∀ device ∈ s.devices row.identity,
    device.system.totalTrans < 2147483647 ∧ device.data.totalTrans < 2147483647

instance (s : Store) : Decidable s.CanCount :=
  inferInstanceAs (Decidable (∀ row ∈ s.db.device.rows, ∀ device ∈ s.devices row.identity, _ ∧ _))

/-- The device of a network in memory is in its table. -/
theorem InOrder.canCount {s : Store} (h : s.InOrder) (hcount : s.CanCount) {identity : StdString}
    {device : AtlasDevice} (hdevice : device ∈ s.devices identity) :
    device.system.totalTrans < 2147483647 ∧ device.data.totalTrans < 2147483647 := by
  have hmemory : s.networks.memory ⟨identity, 0⟩ = some device.system :=
    Devices.networks_eq hdevice 0
  obtain ⟨-, hnone⟩ | ⟨manager, hkeeps, -⟩ := h ⟨identity, 0⟩
  · rw [hnone] at hmemory
    cases hmemory
  · have hrow := hkeeps.getIdDevice
    rw [DeviceTable.getIdDevice, Option.isSome_map, List.find?_isSome] at hrow
    obtain ⟨row, hmem, hidentity⟩ := hrow
    rw [decide_eq_true_iff] at hidentity
    exact hcount row hmem device (hidentity ▸ hdevice)

/-- A registered sender was in memory before its request. -/
theorem getDevice_of_registered {s : Store} {identity : StdString} {device : AtlasDevice}
    (h : (s.getDevice identity).2 = some device) (hregistered : device.registered = true) :
    (s.getDevice identity).1 = s := by
  rw [getDevice] at h ⊢
  cases hdevice : s.devices identity with
  | some device' => rfl
  | none =>
    rw [hdevice] at h
    dsimp only at h
    split_ifs at h
    cases h
    cases hregistered

variable {host}

theorem inOrder_step {s : Store} (h : s.InOrder) {event : StoreEvent}
    (honce : event.ScoresOnce host)
    (hcount : s.CanCount) (hadmissible : event.Admissible host) :
    (s.step host event).1.InOrder := by
  cases event with
  | getDevice identity => exact h.getDevice identity
  | register identity => exact (h.getDevice identity).setRegistered true identity
  | expire identity => exact h.setRegistered false identity
  | feedback tmp pskIdentity reqPayload =>
    rw [step]
    split
    case h_1 => exact h
    case h_2 s' response hcallback =>
      obtain heq | ⟨⟨device, hdevice, hregistered⟩, feedbackIdentity, sensorType, feedbackMatrix,
        hread, heq⟩ := calls.feedbackReputationCallback_cases host hcallback
      · cases heq
        exact h.getDevice pskIdentity
      · cases heq
        have hsame : (calls.getDevice pskIdentity s).1 = s :=
          getDevice_of_registered hdevice hregistered
        rw [hsame]
        exact h.updateDataReputation (fun device' hdevice' => (h.canCount hcount hdevice').2)
          fun manager hmanager =>
            credits_le_one_of_goodScoresOnce host hmanager hadmissible honce hread
  | sysRepAlarm feedback order =>
    exact h.sysRepAlarmCallback feedback hadmissible fun identity _ device hdevice =>
      (h.canCount hcount hdevice).1
  | restart => exact Saved.restart h

end Store

/-! ## Runs -/

/-- The networks of every device count no more successful transactions than transactions, their
features no more than the network, and the reputation lies between zero and one. No counter has left
its range. -/
def Devices.IsProbability (devices : Devices) : Prop :=
  ∀ identity, ∀ device ∈ devices identity,
    (device.system.IsProbability ∧ device.system.InRange) ∧
      device.data.IsProbability ∧ device.data.InRange

theorem Store.InOrder.isProbability {s : Store} (h : s.InOrder) : s.devices.IsProbability := by
  intro identity device hdevice
  have hnetwork : ∀ {n manager}, device.network n = some manager →
      manager.IsProbability ∧ manager.InRange := by
    intro n manager hmanager
    obtain ⟨horder, htotal⟩ : Proper ⟨identity, n⟩ manager :=
      Saved.memory h ((Devices.networks_eq hdevice n).trans hmanager)
    exact ⟨horder.toIsProbability, horder.toIsProbability.inRange htotal⟩
  exact ⟨hnetwork (n := 0) rfl, hnetwork (n := 101) rfl⟩

/-- In every run in which no request scores a feature well twice and no network has counted 2³¹ − 1
transactions before a step, reputations stay probabilities. -/
theorem isProbability_of_goodScores_le_one (host : ByteOrder) (device : DeviceTable)
    (events : List StoreEvent) (hadmissible : ∀ event ∈ events, event.Admissible host)
    (honce : AllSteps (Store.step host) (fun s event => event.ScoresOnce host ∧ s.CanCount)
      (.start device) events) :
    AllStates (Store.step host) (fun s => s.devices.IsProbability) (.start device) events := by
  have hstep : ∀ (s : Store) event, s.InOrder →
      (event.ScoresOnce host ∧ s.CanCount) ∧ event.Admissible host →
      (s.step host event).1.InOrder :=
    fun s event h hevent => Store.inOrder_step h hevent.1.1 hevent.1.2 hevent.2
  exact allStates_of_invariant hstep (fun s h => h.isProbability) (Networks.saved_init device)
    (honce.and_forall_mem hadmissible)

/-- The devices 65 and 66, with a key of one byte each. -/
def pairTable : DeviceTable where
  rows := [⟨1, [65], [1]⟩, ⟨2, [66], [1]⟩]
  id_nodup := by decide
  identity_nodup := by decide
  id_pos := by decide

/-- Device 65 registers and scores device 66, the alarm runs once, and the gateway is started
again. -/
def feedbackRun (scores : List UInt8) : List StoreEvent :=
  [.register [65], .getDevice [66], .feedback 0 [65] (feedbackPayload scores),
    .sysRepAlarm (fun _ => ⟨1, 1, 0⟩) [[65], [66]], .restart, .getDevice [66]]

theorem admissible_feedbackRun {scores : List UInt8}
    (h : TwoByteFields (requestRecords .little (feedbackPayload scores))) :
    ∀ event ∈ feedbackRun scores, event.Admissible .little := by
  simp [feedbackRun, StoreEvent.Admissible, h]

/-- Two good scores of different features. -/
theorem isProbability_of_goodScores_le_one_two :
    AllStates (Store.step .little) (fun s => s.devices.IsProbability) (.start pairTable)
      (feedbackRun [5, 224, 0, 2, 0, 100, 5, 225, 0, 2, 0, 80]) :=
  isProbability_of_goodScores_le_one .little pairTable _
    (admissible_feedbackRun (by decide +kernel)) (by decide +kernel)

/-- Two good scores of the sensor and one of the response time, in a request the gateway accepts:
the sensor counts two successful transactions where its network counts one, and the reputation is
two. -/
theorem not_isProbability_repeated_score :
    (∀ event ∈ feedbackRun [5, 224, 0, 2, 0, 100, 5, 224, 0, 2, 0, 100, 5, 225, 0, 2, 0, 100],
        event.Admissible .little) ∧
      trace (Store.step .little) (.start pairTable)
        (feedbackRun [5, 224, 0, 2, 0, 100, 5, 224, 0, 2, 0, 100, 5, 225, 0, 2, 0, 100]) = [.ok] ∧
      ¬ AllStates (Store.step .little) (fun s => s.devices.IsProbability) (.start pairTable)
        (feedbackRun [5, 224, 0, 2, 0, 100, 5, 224, 0, 2, 0, 100, 5, 225, 0, 2, 0, 100]) := by
  refine ⟨admissible_feedbackRun (by decide +kernel), by decide +kernel, fun h => ?_⟩
  have hreputation : ((run (Store.step .little) (.start pairTable)
      (feedbackRun [5, 224, 0, 2, 0, 100, 5, 224, 0, 2, 0, 100, 5, 225, 0, 2, 0, 100])).devices
        [66]).map (·.data.deviceReputation) = some 2 := by decide +kernel
  obtain ⟨device, hdevice, htwo⟩ := Option.map_eq_some_iff.mp hreputation
  -- device 66 would have a reputation of at most one at the end
  have hle := (h.last [66] device hdevice).2.1.reputation_le_one
  rw [htwo] at hle
  exact absurd hle (by decide)

end Atlas.Reputation

import Atlas.Commands.ClientBatch
import Atlas.Reputation.Feedback

/-! # The most trusted device

The gateway keeps the name of the device with the best combined reputation, and gives it to a device
that asks for somebody to take data from. The name is set when reputations change: by the alarm of
the system networks, and by accepted feedback. It is not set when a device comes into memory, so a
device that was loaded since then may have a better reputation. Among all others the device that is
named has the best reputation, in every state of every run (`Ranked.step`).

A device that asks and is itself the most trusted one gets no name. Whether the device that is named
is still registered is not looked at.

Reference: `device/AtlasDeviceManager.cpp` (`updateReputationOrder`, `getTrustedDevice`),
`reputation/AtlasFeatureReputation.cpp` (`requestReputationCallback`).
-/

namespace Atlas.Reputation

open ByteOrder EventMachine Gateway

/-- `ATLAS_CMD_FEATURE_REQUEST`. -/
def CommandType.featureRequest : UInt16 := 1500

/-- `ATLAS_NETWORK_SENSOR_TEMPERATURE`. -/
def sensorTemperature : UInt16 := 101

/-- The combined reputation of a device. -/
def AtlasDevice.globalReputation (device : AtlasDevice) : ℚ :=
  device.system.deviceReputation * (7 / 10) + device.data.deviceReputation * (3 / 10)

/-! ## The order of the devices -/

/-- The body of the loop in `updateReputationOrder`, with `repValMax` and `mostTrusted`. -/
def visit (devices : Devices) (best : ℚ × StdString) (identity : StdString) : ℚ × StdString :=
  match devices identity with
  | none => best
  | some device =>
    if device.globalReputation > best.1 then (device.globalReputation, identity) else best

/-- The result of `updateReputationOrder`; `order` is the iteration order of the hash map. -/
def mostTrusted (order : List StdString) (devices : Devices) : StdString :=
  (order.foldl (visit devices) (0, [])).2

/-- The manager of the devices. -/
structure AtlasDeviceManager where
  devices : Devices
  /-- The entry of `trustedDevices_` for the temperature network, which is the only one. -/
  trusted : StdString
  /-- The devices in memory when the entry was set last, which the manager does not keep. -/
  ranked : StdString → Bool

namespace AtlasDeviceManager

/-- `updateReputationOrder`. -/
def updateReputationOrder (order : List StdString) (manager : AtlasDeviceManager) :
    AtlasDeviceManager :=
  { manager with
    trusted := mostTrusted order manager.devices
    ranked := fun identity => (manager.devices identity).isSome }

/-- `getTrustedDevice`. -/
def getTrustedDevice (manager : AtlasDeviceManager) (networkType : UInt16) : StdString :=
  if networkType = sensorTemperature then manager.trusted else []

/-- `sysRepAlarmCallback`. -/
def sysRepAlarmCallback (feedback : StdString → SystemFeedback) (order : List StdString)
    (manager : AtlasDeviceManager) : AtlasDeviceManager :=
  { manager with devices := manager.devices.sysRepAlarmCallback feedback }.updateReputationOrder
    order

/-- `updateDataReputation`. -/
def updateDataReputation (identity : StdString) (networkType : ℕ) (feedbackMatrix : FeedbackMatrix)
    (order : List StdString) (manager : AtlasDeviceManager) : AtlasDeviceManager :=
  match manager.devices.scored identity networkType feedbackMatrix with
  | none => manager
  | some device =>
    { manager with
      devices := Function.update manager.devices identity
        (some (device.updateData feedbackMatrix)) }.updateReputationOrder order

/-- `getDevice`. -/
def getDevice (env : Env) (identity : StdString) (manager : AtlasDeviceManager) :
    AtlasDeviceManager × Option AtlasDevice :=
  ({ manager with devices := (manager.devices.getDevice env identity).1 },
    (manager.devices.getDevice env identity).2)

/-- The registration of a device in memory begins or ends. -/
def setRegistered (registered : Bool) (identity : StdString) (manager : AtlasDeviceManager) :
    AtlasDeviceManager :=
  { manager with devices := manager.devices.setRegistered registered identity }

/-- What `feedbackReputationCallback` calls. -/
def calls (env : Env) (order : List StdString) : Calls AtlasDeviceManager where
  getDevice := getDevice env
  updateDataReputation identity networkType feedbackMatrix :=
    updateDataReputation identity networkType feedbackMatrix order

end AtlasDeviceManager

/-! ## Requests -/

variable (host : ByteOrder)

/-- The local variables of `requestReputationCallback`. -/
structure FeatureFields where
  identity : StdString := []
  sensorType : Option UInt16 := none
deriving DecidableEq

/-- The body of the loop of `requestReputationCallback`; `none` refuses the request. -/
def FeatureFields.read (pskIdentity : StdString) (fields : FeatureFields) (cmd : AtlasCommand) :
    Option FeatureFields :=
  if cmd.type = CommandType.identity then
    if cmd.len = 0 then none
    else if pskIdentity ≠ cmd.val then none
    else some { fields with identity := cmd.val }
  else if cmd.type = CommandType.featureRequest then
    if cmd.len ≠ 2 then none
    else (load16? host cmd.val).map fun tmp => { fields with sensorType := some (ntohs host tmp) }
  else some fields

/-- The sensor type an acceptable request names. -/
def readFeature (pskIdentity : StdString) (reqPayload : List UInt8) : Option UInt16 :=
  let cmds := AtlasCommandBatch.parsedCommands host reqPayload
  if cmds = [] then none
  else (cmds.foldlM (FeatureFields.read host pskIdentity) {}).bind fun fields =>
    if fields.identity = [] then none else fields.sensorType

/-- The payload of a positive answer. The batch has parsed the request, and only what was added to
it is serialised. -/
def featurePayload (reqPayload : List UInt8) (mostTrusted : StdString) : List UInt8 :=
  ((AtlasCommandBatch.mk [] (AtlasCommandBatch.parsedCommands host reqPayload)).addCommand
    (.new CommandType.featureRequest mostTrusted)).getSerializedAddedCommands host

/-- `requestReputationCallback`: the answer, and its payload. -/
def AtlasDeviceManager.requestReputationCallback (env : Env) (manager : AtlasDeviceManager)
    (pskIdentity : StdString) (reqPayload : List UInt8) :
    AtlasDeviceManager × CoapResponse × List UInt8 :=
  match manager.getDevice env pskIdentity with
  | (manager, none) => (manager, .notAcceptable, [])
  | (manager, some device) =>
    if !device.registered then (manager, .notAcceptable, []) else
    match readFeature host pskIdentity reqPayload with
    | none => (manager, .notAcceptable, [])
    | some sensorType =>
      -- the identity of an acceptable request is that of the session
      let mostTrusted := manager.getTrustedDevice sensorType
      if mostTrusted = [] ∨ mostTrusted = pskIdentity then (manager, .notAcceptable, [])
      else (manager, .ok, featurePayload host reqPayload mostTrusted)

/-! ## Runs -/

/-- What happens to the reputation of the devices, and requests for the most trusted one. Where the
order is updated, the event has the iteration order of the devices. -/
inductive TrustEvent where
  | getDevice (env : Env) (identity : StdString)
  | register (env : Env) (identity : StdString)
  | expire (identity : StdString)
  | feedback (env : Env) (tmp : UInt16) (order : List StdString) (pskIdentity : StdString)
      (reqPayload : List UInt8)
  | sysRepAlarm (feedback : StdString → SystemFeedback) (order : List StdString)
  | request (env : Env) (pskIdentity : StdString) (reqPayload : List UInt8)

/-- The answer to a request for the most trusted device: who asked, and what was answered. -/
structure Answer where
  pskIdentity : StdString
  response : CoapResponse
  payload : List UInt8
deriving DecidableEq

namespace AtlasDeviceManager

/-- One event; the outputs are the answers to requests. -/
def step (manager : AtlasDeviceManager) : TrustEvent → AtlasDeviceManager × List Answer
  | .getDevice env identity => ((manager.getDevice env identity).1, [])
  | .register env identity => ((manager.getDevice env identity).1.setRegistered true identity, [])
  | .expire identity => (manager.setRegistered false identity, [])
  | .feedback env tmp order pskIdentity reqPayload =>
    match (calls env order).feedbackReputationCallback host tmp manager pskIdentity reqPayload with
    | none => (manager, [])
    | some (manager, _) => (manager, [])
  | .sysRepAlarm feedback order => (manager.sysRepAlarmCallback feedback order, [])
  | .request env pskIdentity reqPayload =>
    let r := manager.requestReputationCallback host env pskIdentity reqPayload
    (r.1, [⟨pskIdentity, r.2.1, r.2.2⟩])

/-- Nothing in memory. -/
def start : AtlasDeviceManager := ⟨fun _ => none, [], fun _ => false⟩

/-- The combined reputation of the most trusted device, or zero. -/
def best (manager : AtlasDeviceManager) : ℚ :=
  ((manager.devices manager.trusted).map (·.globalReputation)).getD 0

end AtlasDeviceManager

/-- The iteration order of an event. -/
def TrustEvent.order? : TrustEvent → Option (List StdString)
  | .feedback _ _ order _ _ | .sysRepAlarm _ order => some order
  | _ => none

/-- The database an event reads. -/
def TrustEvent.env? : TrustEvent → Option Env
  | .getDevice env _ | .register env _ | .feedback env _ _ _ _ | .request env _ _ => some env
  | _ => none

/-- Names that fit in a message for an application. -/
def Fits (identity : StdString) : Prop := identity ≠ [] ∧ identity.length ≤ 2044

/-- The iteration visits every device in memory, and the names of the devices in the database fit in
a message. -/
structure Admissible (manager : AtlasDeviceManager) (event : TrustEvent) : Prop where
  visits : ∀ order ∈ event.order?, ∀ identity,
    ((manager.step host event).1.devices identity).isSome → identity ∈ order
  fits : ∀ env ∈ event.env?, ∀ identity, env.selectDevicePsk identity ≠ [] → Fits identity

/-- The most trusted device is the best of those that have been compared. -/
structure Ranked (manager : AtlasDeviceManager) : Prop where
  fits : ∀ identity, (manager.devices identity).isSome → Fits identity
  inMemory : ∀ identity, manager.ranked identity = true → (manager.devices identity).isSome
  trusted : manager.trusted ≠ [] → manager.ranked manager.trusted = true ∧ 0 < manager.best
  best : ∀ identity device, manager.ranked identity = true →
    manager.devices identity = some device → device.globalReputation ≤ manager.best

/-! ## One update of the order -/

/-- Nobody has the empty name. -/
theorem devices_nil {devices : Devices}
    (h : ∀ identity, (devices identity).isSome → Fits identity) : devices [] = none := by
  by_contra hsome
  exact (h [] (Option.isSome_iff_ne_none.mpr hsome)).1 rfl

/-- The loop ends with the best of the devices visited and its name. -/
theorem foldl_visit (devices : Devices) (order : List StdString) (b : ℚ × StdString) :
    b.1 ≤ (order.foldl (visit devices) b).1 ∧
    (∀ identity ∈ order, ∀ device ∈ devices identity,
      device.globalReputation ≤ (order.foldl (visit devices) b).1) ∧
    (order.foldl (visit devices) b = b ∨
      b.1 < (order.foldl (visit devices) b).1 ∧
        (devices (order.foldl (visit devices) b).2).map (·.globalReputation) =
          some (order.foldl (visit devices) b).1) := by
  induction order generalizing b with
  | nil => exact ⟨le_refl _, by simp, .inl rfl⟩
  | cons identity order ih =>
    obtain ⟨hle, hall, hresult⟩ := ih (visit devices b identity)
    have hvisit : visit devices b identity = b ∧
          (∀ device ∈ devices identity, device.globalReputation ≤ b.1) ∨
        ∃ device, devices identity = some device ∧ b.1 < device.globalReputation ∧
          visit devices b identity = (device.globalReputation, identity) := by
      rw [visit]
      cases hdevice : devices identity with
      | none => exact .inl ⟨rfl, by simp⟩
      | some device =>
        by_cases hbetter : device.globalReputation > b.1
        · exact .inr ⟨device, rfl, hbetter, if_pos hbetter⟩
        · refine .inl ⟨if_neg hbetter, ?_⟩
          rintro _ ⟨⟩
          exact not_lt.mp hbetter
    rw [List.foldl_cons]
    rcases hvisit with ⟨hsame, hworse⟩ | ⟨device, hdevice, hbetter, hnew⟩
    · rw [hsame] at hle hall hresult ⊢
      refine ⟨hle, List.forall_mem_cons.mpr ⟨fun device hdevice => ?_, hall⟩, hresult⟩
      exact (hworse device hdevice).trans hle
    · rw [hnew] at hle hall hresult ⊢
      refine ⟨hbetter.le.trans hle, List.forall_mem_cons.mpr ⟨fun device' hdevice' => ?_, hall⟩,
        .inr ?_⟩
      · rw [hdevice, Option.mem_some_iff] at hdevice'
        exact hdevice' ▸ hle
      · rcases hresult with hresult | ⟨hlt, hscore⟩
        · rw [hresult]
          exact ⟨hbetter, by rw [hdevice]; rfl⟩
        · exact ⟨hbetter.trans hlt, hscore⟩

theorem ranked_updateReputationOrder {manager : AtlasDeviceManager} {order : List StdString}
    (hfits : ∀ identity, (manager.devices identity).isSome → Fits identity)
    (hvisits : ∀ identity, (manager.devices identity).isSome → identity ∈ order) :
    Ranked (manager.updateReputationOrder order) := by
  obtain ⟨hnonneg, hall, hresult⟩ := foldl_visit manager.devices order (0, [])
  have hbest : (manager.updateReputationOrder order).best =
      (order.foldl (visit manager.devices) (0, [])).1 := by
    rw [AtlasDeviceManager.best, AtlasDeviceManager.updateReputationOrder, mostTrusted]
    rcases hresult with hresult | ⟨-, hscore⟩
    · -- nobody is better than zero
      simp only [hresult, devices_nil hfits, Option.map_none, Option.getD_none]
    · simp only [hscore, Option.getD_some]
  refine ⟨hfits, fun _ h => h, fun hne => ?_, fun identity device hranked hdevice => ?_⟩
  · rw [hbest]
    rcases hresult with hresult | ⟨hpos, hscore⟩
    · rw [AtlasDeviceManager.updateReputationOrder, mostTrusted, hresult] at hne
      exact absurd rfl hne
    · refine ⟨?_, hpos⟩
      obtain ⟨device, hdevice, -⟩ := Option.map_eq_some_iff.mp hscore
      exact Option.isSome_of_eq_some hdevice
  · rw [hbest]
    exact hall identity (hvisits identity hranked) device hdevice

/-! ## Events -/

/-- A device is found in memory, or nowhere, or it is loaded. -/
theorem getDevice_cases (env : Env) (devices : Devices) (identity : StdString) :
    devices.getDevice env identity = (devices, devices identity) ∨
      devices identity = none ∧ env.selectDevicePsk identity ≠ [] ∧
        ∃ device, devices.getDevice env identity =
          (Function.update devices identity (some device), some device) := by
  rw [Devices.getDevice]
  cases hdevice : devices identity with
  | some device => exact .inl rfl
  | none =>
    by_cases hpsk : env.selectDevicePsk identity = []
    · exact .inl (if_pos hpsk)
    · exact .inr ⟨rfl, hpsk, _, if_neg hpsk⟩

/-- A request only looks the device up that asks. It is answered with a name if the request is
acceptable and there is a most trusted device other than the one that asks. -/
theorem AtlasDeviceManager.requestReputationCallback_eq (env : Env) (manager : AtlasDeviceManager)
    (pskIdentity : StdString) (reqPayload : List UInt8) :
    manager.requestReputationCallback host env pskIdentity reqPayload =
      ((manager.getDevice env pskIdentity).1,
        if ((manager.getDevice env pskIdentity).2.any (·.registered)) = true ∧
            readFeature host pskIdentity reqPayload = some sensorTemperature ∧
            manager.trusted ≠ [] ∧ manager.trusted ≠ pskIdentity then
          (.ok, featurePayload host reqPayload manager.trusted)
        else (.notAcceptable, [])) := by
  rw [AtlasDeviceManager.requestReputationCallback]
  have htrusted : (manager.getDevice env pskIdentity).1.trusted = manager.trusted := rfl
  cases hget : manager.getDevice env pskIdentity with
  | mk manager' found =>
    rw [hget] at htrusted
    cases found with
    | none => simp
    | some device =>
      cases hregistered : device.registered
      · simp [hregistered]
      · cases hread : readFeature host pskIdentity reqPayload with
        | none => simp [hregistered]
        | some sensorType =>
          by_cases hsensor : sensorType = sensorTemperature
          · by_cases hname : manager'.trusted = [] ∨ manager'.trusted = pskIdentity
            · simp [hregistered, getTrustedDevice, hsensor, ← htrusted, hname, ← not_or]
            · simp [hregistered, getTrustedDevice, hsensor, ← htrusted, hname, ← not_or]
          · simp [hregistered, getTrustedDevice, hsensor]

/-- The names fit when a device is added or changed. -/
theorem fits_update {devices : Devices} (h : ∀ identity, (devices identity).isSome → Fits identity)
    {identity : StdString} (hidentity : Fits identity) (device : AtlasDevice) :
    ∀ identity', (Function.update devices identity (some device) identity').isSome →
      Fits identity' := by
  intro identity' hsome
  by_cases heq : identity' = identity
  · exact heq ▸ hidentity
  · rw [Function.update_of_ne heq] at hsome
    exact h identity' hsome

namespace Ranked

variable {manager : AtlasDeviceManager} (h : Ranked manager)

include h

/-- Devices may come into memory and change in what is not compared. -/
theorem of_devices {devices : Devices}
    (hfits : ∀ identity, (devices identity).isSome → Fits identity)
    (hkeep : ∀ identity device, manager.devices identity = some device →
      ∃ device', devices identity = some device' ∧
        device'.globalReputation = device.globalReputation) :
    Ranked { manager with devices := devices } := by
  have hbest : AtlasDeviceManager.best { manager with devices := devices } = manager.best := by
    by_cases hnil : manager.trusted = []
    · simp only [AtlasDeviceManager.best, hnil, devices_nil hfits, devices_nil h.fits]
    · obtain ⟨device, hdevice⟩ := Option.isSome_iff_exists.mp (h.inMemory _ (h.trusted hnil).1)
      obtain ⟨device', hdevice', hscore⟩ := hkeep _ _ hdevice
      simp only [AtlasDeviceManager.best, hdevice, hdevice', Option.map_some, Option.getD_some,
        hscore]
  refine ⟨hfits, fun identity hranked => ?_, fun hne => ?_,
    fun identity device' hranked hdevice' => ?_⟩
  · obtain ⟨device, hdevice⟩ := Option.isSome_iff_exists.mp (h.inMemory identity hranked)
    obtain ⟨device', hdevice', -⟩ := hkeep identity device hdevice
    exact Option.isSome_of_eq_some hdevice'
  · rw [hbest]
    exact h.trusted hne
  · obtain ⟨device, hdevice⟩ := Option.isSome_iff_exists.mp (h.inMemory identity hranked)
    obtain ⟨device'', hdevice'', hscore⟩ := hkeep identity device hdevice
    obtain rfl : device'' = device' := Option.some.inj (hdevice''.symm.trans hdevice')
    rw [hbest, hscore]
    exact h.best identity device hranked hdevice

theorem getDevice {env : Env}
    (hfits : ∀ identity, env.selectDevicePsk identity ≠ [] → Fits identity)
    (identity : StdString) : Ranked (manager.getDevice env identity).1 := by
  rw [AtlasDeviceManager.getDevice]
  rcases getDevice_cases env manager.devices identity with hsame | ⟨hnone, hpsk, device, hload⟩
  · rw [hsame]
    exact h
  · rw [hload]
    refine h.of_devices (fits_update h.fits (hfits identity hpsk) device) fun identity' other
      hother => ?_
    have heq : identity' ≠ identity := by
      rintro rfl
      rw [hnone] at hother
      cases hother
    exact ⟨other, (Function.update_of_ne heq ..).trans hother, rfl⟩

/-- A device in memory changes in what is not compared. -/
theorem update {identity : StdString} {device device' : AtlasDevice}
    (hdevice : manager.devices identity = some device)
    (hscore : device'.globalReputation = device.globalReputation) :
    Ranked { manager with devices := Function.update manager.devices identity (some device') } := by
  have hidentity := h.fits identity (Option.isSome_of_eq_some hdevice)
  refine h.of_devices (fits_update h.fits hidentity device') fun identity' other hother => ?_
  by_cases heq : identity' = identity
  · subst heq
    obtain rfl : device = other := Option.some.inj (hdevice.symm.trans hother)
    exact ⟨device', Function.update_self .., hscore⟩
  · exact ⟨other, (Function.update_of_ne heq ..).trans hother, rfl⟩

theorem updateDataReputation (identity : StdString) (networkType : ℕ)
    (feedbackMatrix : FeedbackMatrix) {order : List StdString}
    (hvisits : ∀ identity', ((manager.updateDataReputation identity networkType feedbackMatrix
      order).devices identity').isSome → identity' ∈ order) :
    Ranked (manager.updateDataReputation identity networkType feedbackMatrix order) := by
  rw [AtlasDeviceManager.updateDataReputation] at hvisits ⊢
  cases hscored : manager.devices.scored identity networkType feedbackMatrix with
  | none => exact h
  | some device =>
    rw [hscored] at hvisits
    have hidentity := h.fits identity (Option.isSome_of_eq_some (Devices.scored_eq_some hscored).1)
    exact ranked_updateReputationOrder (fits_update h.fits hidentity _) hvisits

theorem setRegistered (registered : Bool) (identity : StdString) :
    Ranked (manager.setRegistered registered identity) := by
  rw [AtlasDeviceManager.setRegistered, Devices.setRegistered]
  cases hdevice : manager.devices identity with
  | none => exact h
  | some device => exact h.update hdevice rfl

/-- Every event leaves the best of the compared devices as the most trusted one. -/
theorem step {event : TrustEvent} (hevent : Admissible host manager event) :
    Ranked (manager.step host event).1 := by
  obtain ⟨hvisits, hfits⟩ := hevent
  cases event with
  | getDevice env identity => exact h.getDevice (hfits env rfl) identity
  | register env identity =>
    exact (h.getDevice (hfits env rfl) identity).setRegistered true identity
  | expire identity => exact h.setRegistered false identity
  | feedback env tmp order pskIdentity reqPayload =>
    have hget := h.getDevice (hfits env rfl) pskIdentity
    have hvisits := hvisits order rfl
    simp only [AtlasDeviceManager.step] at hvisits ⊢
    split
    case h_1 => exact h
    case h_2 manager' response hresult =>
      rw [hresult] at hvisits
      obtain heq | ⟨-, identity, sensorType, feedbackMatrix, -, heq⟩ :=
        (AtlasDeviceManager.calls env order).feedbackReputationCallback_cases host hresult
      · cases heq
        exact hget
      · cases heq
        exact hget.updateDataReputation identity sensorType.toNat feedbackMatrix hvisits
  | sysRepAlarm feedback order =>
    refine ranked_updateReputationOrder (fun identity hsome => ?_) (hvisits order rfl)
    refine h.fits identity ?_
    simpa [Devices.sysRepAlarmCallback] using hsome
  | request env pskIdentity reqPayload =>
    have hget := h.getDevice (hfits env rfl) pskIdentity
    simp only [AtlasDeviceManager.step, AtlasDeviceManager.requestReputationCallback_eq]
    exact hget

end Ranked

/-! ## Answers -/

/-- A name that fits is sent as one record. -/
theorem featurePayload_eq (reqPayload : List UInt8) {identity : StdString}
    (h : identity.length < 65536) :
    featurePayload host reqPayload identity =
      Tlv.encodeAll [⟨CommandType.featureRequest, identity, h⟩] := by
  rw [featurePayload, AtlasCommand.new_eq_ofRecord _ h]
  exact AtlasCommandBatch.getSerializedAddedCommands_ofRecord host
    [⟨CommandType.featureRequest, identity, h⟩] _

/-- The client reads the name. -/
theorem receivedCommands_featurePayload (client : ByteOrder) (reqPayload : List UInt8)
    {identity : StdString} (h : Fits identity) :
    Client.receivedCommands client (featurePayload host reqPayload identity) =
      some (.ok [.new CommandType.featureRequest identity]) := by
  obtain ⟨-, hlen⟩ := h
  have hlt : identity.length < 65536 := by omega
  have hsize : (Tlv.encodeAll [⟨CommandType.featureRequest, identity, hlt⟩]).length ≤ 65535 := by
    simp only [Tlv.encodeAll_cons, Tlv.encodeAll_nil, List.append_nil, Tlv.length_encode]
    omega
  rw [featurePayload_eq host reqPayload hlt, Client.receivedCommands_eq client
    (Client.length_encodeAll_pos (List.cons_ne_nil _ _)) hsize,
    if_pos (Tlv.rest_eq_nil_iff.mpr ⟨_, rfl⟩), Tlv.parse_encodeAll,
    AtlasCommand.new_eq_ofRecord _ hlt]
  rfl

/-- A device with a positive reputation that no compared device surpasses. -/
def Best (manager : AtlasDeviceManager) (identity : StdString) : Prop :=
  manager.ranked identity = true ∧ ∃ device, manager.devices identity = some device ∧
    0 < device.globalReputation ∧
    ∀ other device', manager.ranked other = true → manager.devices other = some device' →
      device'.globalReputation ≤ device.globalReputation

namespace Ranked

variable {host} {manager : AtlasDeviceManager} (h : Ranked manager)

include h

theorem best_trusted (hne : manager.trusted ≠ []) : Best manager manager.trusted := by
  obtain ⟨hranked, hpos⟩ := h.trusted hne
  obtain ⟨device, hdevice⟩ := Option.isSome_iff_exists.mp (h.inMemory _ hranked)
  have hbest : manager.best = device.globalReputation := by
    rw [AtlasDeviceManager.best, hdevice]
    rfl
  refine ⟨hranked, device, hdevice, hbest ▸ hpos, fun other device' hother hdevice' => ?_⟩
  exact hbest ▸ h.best other device' hother hdevice'

theorem best_nil (hnil : manager.trusted = []) {identity : StdString} {device : AtlasDevice}
    (hranked : manager.ranked identity = true) (hdevice : manager.devices identity = some device) :
    device.globalReputation ≤ 0 := by
  have hle := h.best identity device hranked hdevice
  rwa [AtlasDeviceManager.best, hnil, devices_nil h.fits] at hle

end Ranked

/-- What is told to a device that asks. A client that gets a name gets the best of the other
devices. An acceptable request of a registered device is refused if nobody has a positive
reputation, or if the device itself is the best one. -/
structure Informed (client : ByteOrder) (manager : AtlasDeviceManager) (event : TrustEvent) :
    Prop where
  named : ∀ answer ∈ (manager.step host event).2, answer.response = .ok → ∃ identity,
    Client.receivedCommands client answer.payload =
      some (.ok [.new CommandType.featureRequest identity]) ∧
    identity ≠ answer.pskIdentity ∧ Best manager identity
  refused : ∀ env pskIdentity reqPayload, event = .request env pskIdentity reqPayload →
    (∃ device, (manager.getDevice env pskIdentity).2 = some device ∧ device.registered = true) →
    readFeature host pskIdentity reqPayload = some sensorTemperature →
    (manager.requestReputationCallback host env pskIdentity reqPayload).2.1 ≠ .ok →
    Best manager pskIdentity ∨ ∀ identity device, manager.ranked identity = true →
      manager.devices identity = some device → device.globalReputation ≤ 0

theorem Ranked.informed {manager : AtlasDeviceManager} (h : Ranked manager) (client : ByteOrder)
    (event : TrustEvent) : Informed host client manager event := by
  refine ⟨fun answer hanswer hok => ?_, ?_⟩
  · cases event with
    | request env pskIdentity reqPayload =>
      rw [AtlasDeviceManager.step, manager.requestReputationCallback_eq] at hanswer
      obtain rfl := List.mem_singleton.mp hanswer
      split_ifs at hok ⊢ with hnamed
      obtain ⟨-, -, hne, hother⟩ := hnamed
      have hbest := h.best_trusted hne
      have hfits := h.fits _ (h.inMemory _ hbest.1)
      exact ⟨manager.trusted, receivedCommands_featurePayload host client reqPayload hfits, hother,
        hbest⟩
    | getDevice env identity => cases hanswer
    | register env identity => cases hanswer
    | expire identity => cases hanswer
    | feedback env tmp order pskIdentity reqPayload =>
      rw [AtlasDeviceManager.step] at hanswer
      split at hanswer <;> cases hanswer
    | sysRepAlarm feedback order => cases hanswer
  · rintro env pskIdentity reqPayload rfl ⟨device, hdevice, hregistered⟩ hread hresponse
    rw [manager.requestReputationCallback_eq, hdevice, hread] at hresponse
    by_cases hnil : manager.trusted = []
    · exact .inr fun identity device => h.best_nil hnil
    · by_cases hself : manager.trusted = pskIdentity
      · exact .inl (hself ▸ h.best_trusted hnil)
      · exact absurd (by simp [hregistered, hnil, hself]) hresponse

theorem ranked_start : Ranked .start where
  fits _ hsome := absurd hsome Bool.false_ne_true
  inMemory _ hranked := absurd hranked Bool.false_ne_true
  trusted hne := absurd rfl hne
  best _ _ hranked := absurd hranked Bool.false_ne_true

/-- In every run, a device that asks for somebody to take data from is told the best of the other
devices that have been compared, and gets no name only if there is no such device. -/
theorem named_device_is_best (client : ByteOrder) (events : List TrustEvent)
    (h : AllSteps (AtlasDeviceManager.step host) (Admissible host) .start events) :
    AllSteps (AtlasDeviceManager.step host) (Informed host client) .start events :=
  allSteps_of_invariant (fun _ _ hranked hevent => hranked.step host hevent)
    (fun _ event hranked _ => hranked.informed host client event) ranked_start h

/-- A database that knows two devices and holds no counters yet. -/
def pairEnv : Env :=
  ⟨fun identity => if identity = [65] ∨ identity = [66] then [1] else [], fun _ => none,
    fun _ => none⟩

/-- Both devices register, and device 66 does better than device 65 in one period. -/
def pairStart : List TrustEvent :=
  [.register pairEnv [65], .register pairEnv [66],
    .sysRepAlarm (fun identity => if identity = [66] then ⟨1, 1, 1⟩ else ⟨1, 0, 0⟩) [[66], [65]]]

/-- Both ask for a device to take data from. -/
def pairRun : List TrustEvent :=
  pairStart ++ [.request pairEnv [65] [0, 2, 0, 1, 65, 5, 220, 0, 2, 0, 101],
    .request pairEnv [66] [0, 2, 0, 1, 66, 5, 220, 0, 2, 0, 101]]

theorem fits_pairEnv {identity : StdString} (h : pairEnv.selectDevicePsk identity ≠ []) :
    Fits identity := by
  by_cases hknown : identity = [65] ∨ identity = [66]
  · rcases hknown with rfl | rfl
    · exact ⟨by decide, by decide⟩
    · exact ⟨by decide, by decide⟩
  · exact absurd (if_neg hknown) h

theorem admissible_of_env {manager : AtlasDeviceManager} {event : TrustEvent}
    (henv : event.env? = some pairEnv) (horder : event.order? = none) :
    Admissible host manager event where
  visits order hmem := by
    rw [horder] at hmem
    cases hmem
  fits env hmem identity := by
    rw [henv] at hmem
    cases hmem
    exact fits_pairEnv

theorem admissible_pairStart :
    AllSteps (AtlasDeviceManager.step host) (Admissible host) .start pairStart := by
  refine ⟨admissible_of_env host rfl rfl, admissible_of_env host rfl rfl, ⟨?_, fun _ hnone => ?_⟩,
    trivial⟩
  · rintro order ⟨⟩ identity hsome
    by_contra hother
    rw [List.mem_pair, not_or] at hother
    revert hsome
    simp [AtlasDeviceManager.step, AtlasDeviceManager.sysRepAlarmCallback,
      AtlasDeviceManager.getDevice, AtlasDeviceManager.setRegistered,
      AtlasDeviceManager.updateReputationOrder, Devices.sysRepAlarmCallback, Devices.getDevice,
      Devices.setRegistered, pairEnv, AtlasDeviceManager.start, hother]
  · cases hnone

/-- Device 65 is told of device 66, which gets no name. -/
theorem named_device_is_best_pair :
    trace (AtlasDeviceManager.step .little) .start pairRun =
      [⟨[65], .ok, [5, 220, 0, 1, 66]⟩, ⟨[66], .notAcceptable, []⟩] ∧
    AllSteps (AtlasDeviceManager.step .little) (Informed .little .big) .start pairRun := by
  obtain ⟨hfirst, hsecond, hthird, -⟩ := admissible_pairStart .little
  exact ⟨by decide +kernel, named_device_is_best .little .big pairRun ⟨hfirst, hsecond, hthird,
    admissible_of_env .little rfl rfl, admissible_of_env .little rfl rfl, trivial⟩⟩

end Atlas.Reputation

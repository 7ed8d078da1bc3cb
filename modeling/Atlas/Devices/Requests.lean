import Atlas.Devices.Device
import Atlas.Lib.Lists

/-! # Requests of clients

The four callbacks of the CoAP server that act on a device. Each one reads the whole request before
it changes anything, so a request is either refused, and then at most a device has come into memory,
or it is accepted, and then one operation is applied to the device of the DTLS identity
(`callback_serves`).

Reference: `register/AtlasRegister.cpp`, `policy/AtlasPolicy.cpp`, `telemetry/AtlasTelemetry.cpp`,
`device/AtlasDeviceManager.cpp`.
-/

namespace Atlas.Devices

open ByteOrder Gateway
open Firewall (AtlasFirewallPolicy readRegister readKeepalive readPolicy)
open Firewall.AtlasPubSubAgent (Call)

/-! ## The device manager -/

/-- `AtlasDeviceManager`: the devices in memory, by identity. -/
structure AtlasDeviceManager where
  devices : Table fun device : AtlasDevice => device.identity

/-- A call of `updateDevice`. -/
structure Update where
  identity : StdString
  jsonInfo : StdString
deriving DecidableEq

/-- The calls a device makes. -/
def AtlasDevice.updates (device : AtlasDevice) (fragments : List StdString) : List Update :=
  fragments.map (⟨device.identity, ·⟩)

namespace AtlasDeviceManager

variable (env : Env)

/-- The manager without any device. -/
def init : AtlasDeviceManager := ⟨⟨[], List.nodup_nil⟩⟩

/-- `getDevice`. -/
def getDevice (manager : AtlasDeviceManager) (identity : StdString) :
    AtlasDeviceManager × Option AtlasDevice :=
  match manager.devices.find? identity with
  | some device => (manager, some device)
  | none =>
    if env.selectDevicePsk identity = [] then (manager, none)
    else (⟨manager.devices.save (.new env identity)⟩, some (.new env identity))

/-- A device of the manager, changed in place. -/
def setDevice (manager : AtlasDeviceManager) (device : AtlasDevice) : AtlasDeviceManager :=
  ⟨manager.devices.save device⟩

/-- The devices in the order of `forEachDevice`. -/
def forEachDevice (manager : AtlasDeviceManager) : List AtlasDevice :=
  manager.devices.rows.insertionSort fun device device' =>
    env.position device.identity ≤ env.position device'.identity

/-- `keepaliveAlarmCallback`, over all devices. -/
def keepaliveAlarmCallback (manager : AtlasDeviceManager) :
    AtlasDeviceManager × List Call × List Update :=
  (⟨manager.devices.map (fun device => (device.keepaliveAlarm env).1)
      fun device => by simp [Firewall.AtlasDevice.identity_keepaliveAlarm]⟩,
    (manager.forEachDevice env).flatMap
      fun device => Firewall.AtlasDeviceManager.uninstall device.toAtlasDevice,
    (manager.forEachDevice env).flatMap fun device => device.updates (device.keepaliveAlarm env).2)

end AtlasDeviceManager

namespace AtlasDeviceManager

variable {env : Env} {manager manager' : AtlasDeviceManager} {identity : StdString}
  {device : AtlasDevice}

/-- `getDevice` brings at most the device it looks for into memory. -/
theorem find?_getDevice_of_ne (env : Env) (manager : AtlasDeviceManager) {other : StdString}
    (h : other ≠ identity) :
    (manager.getDevice env identity).1.devices.find? other = manager.devices.find? other := by
  rw [getDevice]
  cases manager.devices.find? identity with
  | some device => rfl
  | none =>
    dsimp only
    split
    · rfl
    · exact Table.find?_save_of_ne manager.devices h

theorem find?_getDevice_self (env : Env) (manager : AtlasDeviceManager) (identity : StdString) :
    (manager.getDevice env identity).1.devices.find? identity = manager.devices.find? identity ∨
      manager.devices.find? identity = none ∧
        (manager.getDevice env identity).1.devices.find? identity = some (.new env identity) := by
  rw [getDevice]
  cases hfind : manager.devices.find? identity with
  | some device => exact .inl hfind
  | none =>
    dsimp only
    split
    · exact .inl hfind
    · exact .inr ⟨rfl, Table.find?_save_self (AtlasDevice.new env identity) manager.devices⟩

/-- What `getDevice` returns is the device in memory. -/
theorem find?_of_getDevice (h : manager.getDevice env identity = (manager', some device)) :
    manager'.devices.find? identity = some device := by
  rw [getDevice] at h
  cases hfind : manager.devices.find? identity with
  | some found =>
    rw [hfind] at h
    cases h
    exact hfind
  | none =>
    simp only [hfind] at h
    split at h <;> cases h
    exact Table.find?_save_self (AtlasDevice.new env identity) manager.devices

theorem identity_of_getDevice (h : manager.getDevice env identity = (manager', some device)) :
    device.identity = identity := by
  have hfind := find?_of_getDevice h
  exact (Table.find?_eq_some_iff.mp hfind).2

end AtlasDeviceManager

/-! ## The callbacks -/

/-- What a callback leaves behind: the devices, the calls to the publish-subscribe agent and to the
cloud, and the answer. -/
structure Handled where
  manager : AtlasDeviceManager
  calls : List Call := []
  updates : List Update := []
  respPayload : List UInt8 := []
  response : CoapResponse

section Callbacks

variable (host : ByteOrder) (env : Env) (manager : AtlasDeviceManager)
variable (pskIdentity : StdString) (reqPayload : List UInt8)

/-- A refused request. -/
def refuse (manager : AtlasDeviceManager) : Handled := { manager, response := .notAcceptable }

/-- `AtlasRegister::registerCallback`. An exception of `pushAlerts` is not caught. -/
def registerCallback : Except CppException Handled :=
  match readRegister host pskIdentity reqPayload with
  | none => .ok (refuse manager)
  | some fields =>
    match manager.getDevice env fields.identity with
    | (manager, none) => .ok (refuse manager)
    | (manager, some device) =>
      let (device, fragments) := device.registerNow env
      let (device, fragments') := device.setIpPort fields.ipPort
      match AtlasDevice.pushAlerts env with
      | .ok () => .ok {
          manager := manager.setDevice device
          updates := device.updates (fragments ++ fragments')
          response := .ok }
      | .error e => .error e

/-- The common frame of the other callbacks: the request counts only if the device of the DTLS
identity is registered and the request can be read. -/
def onRegistered {α : Type} (request : Option α)
    (accept : AtlasDeviceManager → AtlasDevice → α → Handled) : Handled :=
  match manager.getDevice env pskIdentity with
  | (manager, none) => refuse manager
  | (manager, some device) =>
    if !device.registered then refuse manager else
    match request with
    | none => refuse manager
    | some fields => accept manager device fields

/-- `AtlasRegister::keepaliveCallback`. -/
def keepaliveCallback : Handled :=
  onRegistered env manager pskIdentity (readKeepalive host pskIdentity reqPayload)
    fun manager device fields =>
      let (device, fragments) := device.keepAliveNow env
      let (device, fragments') := device.setIpPort fields.ipPort
      { manager := manager.setDevice device
        updates := device.updates (fragments ++ fragments')
        respPayload := fields.token.getD []
        response := .ok }

/-- `AtlasPolicy::firewallPolicyCallback`. -/
def firewallPolicyCallback : Handled :=
  onRegistered env manager pskIdentity (readPolicy host pskIdentity reqPayload)
    fun manager device policy =>
      let (device, fragments) := device.setPolicyInfo policy
      { manager := manager.setDevice device
        calls := device.policy.toList.map .installFirewallRule
        updates := device.updates fragments
        response := .ok }

/-- The local variables of `featureCallback`. -/
structure FeatureFields where
  identity : StdString := []
  feature : StdString × StdString := ([], [])
deriving DecidableEq

/-- The body of the loop of `featureCallback`: the last command that is not an identity counts. -/
def FeatureFields.read (path : StdString) (fields : FeatureFields) (cmd : AtlasCommand) :
    Option FeatureFields :=
  if cmd.type = Firewall.CommandType.identity then
    if cmd.len = 0 then none
    else if pskIdentity ≠ cmd.val then none
    else some { fields with identity := cmd.val }
  else some { fields with feature := getFeature path cmd }

/-- The feature of a telemetry request, if it is acceptable. -/
def readFeature (path : StdString) : Option (StdString × StdString) :=
  let cmds := AtlasCommandBatch.parsedCommands host reqPayload
  if cmds = [] then none
  else
    ((cmds.foldlM (FeatureFields.read pskIdentity path) {}).filter fun fields =>
      fields.identity ≠ [] ∧ fields.feature.1 ≠ [] ∧ fields.feature.2 ≠ []).map (·.feature)

/-- `AtlasTelemetry::featureCallback`. -/
def featureCallback (path : StdString) : Handled :=
  onRegistered env manager pskIdentity (readFeature host pskIdentity reqPayload path)
    fun manager device feature =>
      let (device, fragments) := device.setFeature feature.1 feature.2
      { manager := manager.setDevice device
        updates := device.updates fragments
        response := .ok }

end Callbacks

/-- The resources a client sends its requests to. -/
inductive Resource where
  | register
  | keepalive
  | policy
  | telemetry (path : StdString)
deriving DecidableEq

variable (host : ByteOrder)

/-- The callback of a resource. -/
def Resource.callback (resource : Resource) (env : Env) (manager : AtlasDeviceManager)
    (pskIdentity : StdString) (reqPayload : List UInt8) : Except CppException Handled :=
  match resource with
  | .register => registerCallback host env manager pskIdentity reqPayload
  | .keepalive => .ok (keepaliveCallback host env manager pskIdentity reqPayload)
  | .policy => .ok (firewallPolicyCallback host env manager pskIdentity reqPayload)
  | .telemetry path => .ok (featureCallback host env manager pskIdentity reqPayload path)

/-! ## What a request can do -/

/-- What an accepted request does to its device. Only a registration is accepted from a device that
is not registered. -/
inductive Applies (env : Env) (pskIdentity : StdString) (reqPayload : List UInt8)
    (device : AtlasDevice) : Resource → AtlasDevice → Prop where
  | register (fields : Firewall.RegisterFields)
      (h : readRegister host pskIdentity reqPayload = some fields) :
      Applies env pskIdentity reqPayload device .register
        ((device.registerNow env).1.setIpPort fields.ipPort).1
  | keepalive (fields : Firewall.KeepaliveFields) (hreg : device.registered)
      (h : readKeepalive host pskIdentity reqPayload = some fields) :
      Applies env pskIdentity reqPayload device .keepalive
        ((device.keepAliveNow env).1.setIpPort fields.ipPort).1
  | policy (policy : AtlasFirewallPolicy) (hreg : device.registered)
      (h : readPolicy host pskIdentity reqPayload = some policy) :
      Applies env pskIdentity reqPayload device .policy (device.setPolicyInfo policy).1
  | telemetry (path : StdString) (feature : StdString × StdString) (hreg : device.registered)
      (h : readFeature host pskIdentity reqPayload path = some feature) :
      Applies env pskIdentity reqPayload device (.telemetry path)
        (device.setFeature feature.1 feature.2).1

variable {host} {env : Env} {manager manager' : AtlasDeviceManager} {pskIdentity : StdString}
  {reqPayload : List UInt8} {device device' : AtlasDevice} {resource : Resource}

/-- An operation leaves the identity alone. -/
theorem Applies.identity (h : Applies host env pskIdentity reqPayload device resource device') :
    device'.identity = device.identity := by
  cases h <;> simp [AtlasDevice.toAtlasDevice_registerNow, AtlasDevice.toAtlasDevice_keepAliveNow,
    Firewall.AtlasDevice.registerNow, Firewall.AtlasDevice.keepAliveNow]

/-- A registration is for the DTLS identity. -/
theorem identity_of_readRegister {fields : Firewall.RegisterFields}
    (h : readRegister host pskIdentity reqPayload = some fields) :
    fields.identity = pskIdentity := by
  simp only [readRegister] at h
  split at h
  · cases h
  · obtain ⟨hcmds, hfilter⟩ := Option.filter_eq_some_iff.mp h
    obtain ⟨hidentity, -⟩ := of_decide_eq_true hfilter
    have hinv := List.foldlM_option_preserves
      (I := fun fields => fields.identity = [] ∨ fields.identity = pskIdentity) ?_ hcmds (.inl rfl)
    · exact hinv.resolve_left hidentity
    · intro fields cmd fields' hfields hread
      simp only [Firewall.RegisterFields.read] at hread
      grind

/-- A request is refused, and at most its device has come into memory, or it is accepted and its
operation is applied to that device. -/
inductive Serves (host : ByteOrder) (env : Env) (manager : AtlasDeviceManager)
    (pskIdentity : StdString) (reqPayload : List UInt8) (resource : Resource) (handled : Handled) :
    Prop where
  | refused (hresp : handled.response = .notAcceptable)
      (hmanager : handled.manager = manager ∨
        handled.manager = (manager.getDevice env pskIdentity).1)
  | accepted (manager' : AtlasDeviceManager) (device device' : AtlasDevice)
      (hresp : handled.response = .ok)
      (hget : manager.getDevice env pskIdentity = (manager', some device))
      (happlies : Applies host env pskIdentity reqPayload device resource device')
      (hmanager : handled.manager = manager'.setDevice device')

theorem registerCallback_serves {handled : Handled}
    (h : registerCallback host env manager pskIdentity reqPayload = .ok handled) :
    Serves host env manager pskIdentity reqPayload .register handled := by
  rw [registerCallback] at h
  cases hread : readRegister host pskIdentity reqPayload with
  | none =>
    rw [hread] at h
    cases h
    exact .refused rfl (.inl rfl)
  | some fields =>
    obtain rfl := identity_of_readRegister hread
    rcases hget : manager.getDevice env fields.identity with ⟨manager', _ | device⟩ <;>
      simp only [hread, hget] at h
    · cases h
      exact .refused rfl (.inr (by rw [hget]; rfl))
    · cases halerts : AtlasDevice.pushAlerts env <;> rw [halerts] at h <;> cases h
      exact .accepted manager' device _ rfl hget (.register fields hread) rfl

/-- The rule of the common frame. -/
theorem onRegistered_serves {α : Type} {request : Option α}
    {accept : AtlasDeviceManager → AtlasDevice → α → Handled}
    {apply : AtlasDevice → α → AtlasDevice}
    (haccept : ∀ manager device fields, (accept manager device fields).response = .ok ∧
      (accept manager device fields).manager = manager.setDevice (apply device fields))
    (happlies : ∀ device fields, device.registered = true → request = some fields →
      Applies host env pskIdentity reqPayload device resource (apply device fields)) :
    Serves host env manager pskIdentity reqPayload resource
      (onRegistered env manager pskIdentity request accept) := by
  rw [onRegistered]
  rcases hget : manager.getDevice env pskIdentity with ⟨manager', _ | device⟩ <;> dsimp only
  · exact .refused rfl (.inr (by rw [hget]; rfl))
  · cases hreg : device.registered with
    | false => exact .refused rfl (.inr (by rw [hget]; rfl))
    | true =>
      cases request with
      | none => exact .refused rfl (.inr (by rw [hget]; rfl))
      | some fields =>
        obtain ⟨hresp, hmanager⟩ := haccept manager' device fields
        exact .accepted manager' device _ hresp hget (happlies device fields hreg rfl) hmanager

theorem callback_serves {handled : Handled}
    (h : resource.callback host env manager pskIdentity reqPayload = .ok handled) :
    Serves host env manager pskIdentity reqPayload resource handled := by
  cases resource with
  | register => exact registerCallback_serves h
  | keepalive =>
    cases h
    exact onRegistered_serves (fun _ _ _ => ⟨rfl, rfl⟩)
      fun _ fields hreg hread => .keepalive fields hreg hread
  | policy =>
    cases h
    exact onRegistered_serves (fun _ _ _ => ⟨rfl, rfl⟩)
      fun _ policy hreg hread => .policy policy hreg hread
  | telemetry path =>
    cases h
    exact onRegistered_serves (fun _ _ _ => ⟨rfl, rfl⟩)
      fun _ feature hreg hread => .telemetry path feature hreg hread

/-! ## Acting for oneself -/

/-- The callbacks return when the alerts can be sent. -/
theorem exists_callback_eq (host : ByteOrder) (resource : Resource) (halerts : env.alerts = none)
    (manager : AtlasDeviceManager) (pskIdentity : StdString) (reqPayload : List UInt8) :
    ∃ handled, resource.callback host env manager pskIdentity reqPayload = .ok handled := by
  cases resource with
  | register =>
    simp only [Resource.callback, registerCallback, AtlasDevice.pushAlerts, halerts, sendRequest]
    split
    · exact ⟨_, rfl⟩
    · split <;> exact ⟨_, rfl⟩
  | keepalive => exact ⟨_, rfl⟩
  | policy => exact ⟨_, rfl⟩
  | telemetry path => exact ⟨_, rfl⟩

/-- Only the device of the DTLS identity is touched. -/
theorem Serves.find?_of_ne {handled : Handled} {other : StdString}
    (h : Serves host env manager pskIdentity reqPayload resource handled)
    (hne : other ≠ pskIdentity) :
    handled.manager.devices.find? other = manager.devices.find? other := by
  cases h with
  | refused _ hmanager =>
    rcases hmanager with hmanager | hmanager <;> rw [hmanager]
    exact AtlasDeviceManager.find?_getDevice_of_ne env manager hne
  | accepted manager' device device' _ hget happlies hmanager =>
    have hid : device'.identity = pskIdentity :=
      happlies.identity.trans (AtlasDeviceManager.identity_of_getDevice hget)
    have hother := AtlasDeviceManager.find?_getDevice_of_ne env manager hne
    rw [hget] at hother
    rw [hmanager, AtlasDeviceManager.setDevice, Table.find?_save_of_ne _ (hid ▸ hne), hother]

/-- A request changes no device but that of its DTLS identity. When it is answered NOT_ACCEPTABLE it
does not change that one either; it may have come into memory, as a device that is not registered
and has no address, no policy and the default telemetry values. -/
theorem client_acts_for_itself (host : ByteOrder) (resource : Resource) (env : Env)
    (halerts : env.alerts = none) (manager : AtlasDeviceManager) (pskIdentity : StdString)
    (reqPayload : List UInt8) :
    ∃ handled, resource.callback host env manager pskIdentity reqPayload = .ok handled ∧
      (∀ other, other ≠ pskIdentity →
        handled.manager.devices.find? other = manager.devices.find? other) ∧
      (handled.response = .notAcceptable →
        handled.manager.devices.find? pskIdentity = manager.devices.find? pskIdentity ∨
        manager.devices.find? pskIdentity = none ∧
          handled.manager.devices.find? pskIdentity = some (.new env pskIdentity)) := by
  obtain ⟨handled, h⟩ := exists_callback_eq host resource halerts manager pskIdentity reqPayload
  have hserves := callback_serves h
  refine ⟨handled, h, fun other hne => hserves.find?_of_ne hne, fun hresp => ?_⟩
  cases hserves with
  | refused _ hmanager =>
    rcases hmanager with hmanager | hmanager <;> rw [hmanager]
    · exact .inl rfl
    · exact AtlasDeviceManager.find?_getDevice_self env manager pskIdentity
  | accepted _ _ _ hok => simp [hok] at hresp

/-- A gateway that knows a key for every identity. -/
def sampleEnv : Env where
  selectDevicePsk _ := bytes "psk"
  storedStats _ := {}
  kaCtr := 0
  position _ := 0
  now := 0
  toSimpleString _ := bytes "2020-Jan-01 00:00:00"
  systemReputation _ := bytes "0.500000"
  temperatureReputation _ := bytes "0.500000"
  storedCmds _ := ([], [])
  alerts := none

/-- The registration of an identity under an address. -/
def sampleRegister (identity ipPort : StdString) (hidentity : identity.length < 65536)
    (hipPort : ipPort.length < 65536) : List UInt8 :=
  Tlv.encodeAll [⟨Firewall.CommandType.register, identity, hidentity⟩,
    ⟨Firewall.CommandType.ipPort, ipPort, hipPort⟩]

/-- The door tries to register the lamp. -/
theorem client_acts_for_itself_spoofed :
    sampleEnv.alerts = none ∧
    ∃ handled, Resource.register.callback .little sampleEnv .init (bytes "door")
        (sampleRegister (bytes "lamp") (bytes "10.0.0.2:5683") (by decide) (by decide)) =
          .ok handled ∧
      (∀ other, other ≠ bytes "door" →
        handled.manager.devices.find? other = AtlasDeviceManager.init.devices.find? other) ∧
      (handled.response = .notAcceptable →
        handled.manager.devices.find? (bytes "door") =
            AtlasDeviceManager.init.devices.find? (bytes "door") ∨
          AtlasDeviceManager.init.devices.find? (bytes "door") = none ∧
            handled.manager.devices.find? (bytes "door") =
              some (.new sampleEnv (bytes "door"))) :=
  ⟨rfl, client_acts_for_itself .little .register sampleEnv rfl .init (bytes "door") _⟩

/-! ## The devices of the firewall

The model of the firewall keeps a part of each device. -/

namespace AtlasDeviceManager

/-- The devices of the firewall. -/
def firewall (manager : AtlasDeviceManager) : Firewall.AtlasDeviceManager :=
  ⟨manager.devices.image AtlasDevice.toAtlasDevice fun _ => rfl⟩

variable (env : Env) (manager : AtlasDeviceManager)

theorem find?_firewall (identity : StdString) :
    manager.firewall.devices.find? identity =
      (manager.devices.find? identity).map AtlasDevice.toAtlasDevice :=
  Table.find?_image AtlasDevice.toAtlasDevice (fun _ => rfl) manager.devices identity

theorem firewall_setDevice (device : AtlasDevice) :
    (manager.setDevice device).firewall = manager.firewall.setDevice device.toAtlasDevice :=
  congrArg Firewall.AtlasDeviceManager.mk
    (Table.image_save AtlasDevice.toAtlasDevice (fun _ => rfl) device manager.devices)

theorem firewall_getDevice (identity : StdString) :
    manager.firewall.getDevice env.toEnv identity =
      ((manager.getDevice env identity).1.firewall,
        (manager.getDevice env identity).2.map AtlasDevice.toAtlasDevice) := by
  rw [getDevice, Firewall.AtlasDeviceManager.getDevice, find?_firewall]
  cases manager.devices.find? identity with
  | some device => rfl
  | none =>
    by_cases hpsk : env.selectDevicePsk identity = []
    · simp [hpsk]
    · simp only [hpsk, if_false, Option.map_none, Option.map_some]
      exact congrArg (·, _) (manager.firewall_setDevice (.new env identity)).symm

theorem firewall_keepaliveAlarmCallback :
    manager.firewall.keepaliveAlarmCallback env.toEnv =
      ((manager.keepaliveAlarmCallback env).1.firewall,
        (manager.keepaliveAlarmCallback env).2.1) := by
  have hsort : manager.firewall.forEachDevice env.toEnv =
      (manager.forEachDevice env).map AtlasDevice.toAtlasDevice :=
    (List.map_insertionSort _ _ AtlasDevice.toAtlasDevice manager.devices.rows
      fun _ _ _ _ => Iff.rfl).symm
  rw [Firewall.AtlasDeviceManager.keepaliveAlarmCallback, hsort, List.flatMap_map]
  simp [keepaliveAlarmCallback, firewall, Table.image, Table.map, Function.comp_def]

end AtlasDeviceManager

end Atlas.Devices
